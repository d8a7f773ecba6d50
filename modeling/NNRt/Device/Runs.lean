import NNRt.Device.Prepared

/-!
# Runs of a device

The process with what it holds of a device: any calls in any order, and a driver that may
refuse everything.

- `DeviceSystem.step`: one call; what is said in it is added to the transcript.
- `Trustworthy`: the other side answers as is relied on, whatever was said before.
- `Disciplined`: only what was handed out is given back, and models are well formed.
- `run_permitted`: **nothing is asked that may not be asked**, and no call ends in an error
  of memory.
- `run_accounts`: **in every state the accounts are right**.
- `all_given_back`: what nobody holds is gone, unless the driver has refused it.
-/

namespace NNRt

open DeviceCall (keeps_pure keeps_bind keeps_ask_bind)

/-! ## The process -/

/-- A prepared model, with the caches it has exported. -/
structure ExportingModel extends HDIDevice.HDIPreparedModel where
  exported : List (Address × UInt64) := []

/-- What the callers hold: pointers, descriptors, and the prepared models that live. -/
structure DeviceHoldings where
  pointers : List Address := []
  fds : List Int32 := []
  prepared : List (Option ExportingModel) := []

/-- The process: what is held, and what was said in every call. -/
structure DeviceSystem (ν : Type) where
  holdings : DeviceHoldings := {}
  manager : MemoryManager := {}
  heard : List (DeviceCall ν × List DeviceExchange) := []

namespace DeviceHoldings

/-- The mappings of the prepared models that live. -/
def caches (h : DeviceHoldings) : List (Address × UInt64) :=
  h.prepared.flatMap fun p => (p.map ExportingModel.exported).getD []

def owners (h : DeviceHoldings) : Owners :=
  ⟨h.pointers, h.fds, h.caches⟩

/-- A model that was prepared. -/
def add (h : DeviceHoldings) (p : Option HDIDevice.HDIPreparedModel) : DeviceHoldings :=
  { h with prepared := h.prepared ++ (p.map fun p => some { toHDIPreparedModel := p }).toList }

/-- Another state of a prepared model. -/
def replace (h : DeviceHoldings) (i : Nat) (p : Option ExportingModel) : DeviceHoldings :=
  { h with prepared := h.prepared.set i p }

end DeviceHoldings

section

variable {ν : Type} (default : Accessor → ν) (marshal : NodeType → List (Attribute × ν) → List Int8)

/-- One call, and what is held behind it. What was given back with success is not held any
more. -/
def DeviceCall.perform (h : DeviceHoldings) : DeviceCall ν → DeviceM DeviceHoldings
  | .allocateBuffer length => do
    let addr ← HDIDevice.allocateBuffer length
    return { h with pointers := h.pointers ++ addr.toList }
  | .allocateBufferFd length => do
    let (_, fd) ← HDIDevice.allocateBufferFd length
    return { h with fds := h.fds ++ (fd.filter (0 ≤ ·)).toList }
  | .releaseBuffer buffer => do
    let ret ← HDIDevice.releaseBuffer buffer
    return if ret = .success then { h with pointers := h.pointers.filter (some · ≠ buffer) } else h
  | .releaseBufferFd fd length => do
    let ret ← HDIDevice.releaseBufferFd fd length
    return if ret = .success then { h with fds := h.fds.filter (· ≠ fd) } else h
  | .getSupportedOperation model env => do
    let _ ← HDIDevice.getSupportedOperation default marshal model env
    return h
  | .prepareModel model config env => do
    let (_, p) ← HDIDevice.prepareModel default marshal model config env
    return h.add p
  | .prepareModelFromModelCache modelCache config env => do
    let (_, p) ← HDIDevice.prepareModelFromModelCache modelCache config env
    return h.add p
  | .prepareOfflineModel model config env => do
    let (_, p) ← HDIDevice.prepareOfflineModel model config env
    return h.add p
  | .exportModelCache i =>
    match h.prepared[i]?.join with
    | none => return h
    | some p => do
      let (_, exporting, modelCache) ← HDIPreparedModel.exportModelCache p.toHDIPreparedModel
      return h.replace i (some ⟨exporting, p.exported ++ modelCache⟩)
  | .destroy i =>
    match h.prepared[i]?.join with
    | none => return h
    | some p => do
      HDIPreparedModel.destroy p.toHDIPreparedModel
      return h.replace i none

namespace DeviceSystem

/-- The transcript. -/
def said (s : DeviceSystem ν) : List DeviceExchange :=
  s.heard.flatMap Prod.snd

/-- One call of the process with another party. -/
def step (party : DeviceParty) (s : DeviceSystem ν) (call : DeviceCall ν) :
    Except Fault (DeviceSystem ν) :=
  let out := Asking.run (fun said => party (s.said ++ said))
    (call.perform default marshal s.holdings) s.manager
  match out.2 with
  | .error fault => .error fault
  | .ok (holdings, manager) => .ok ⟨holdings, manager, s.heard ++ [(call, out.1)]⟩

end DeviceSystem

end

/-! ## Transcripts -/

namespace DeviceSession

/-- What a transcript does. -/
def read (q : DeviceSession) (said : List DeviceExchange) : DeviceSession :=
  said.foldl after q

end DeviceSession

/-- What was said in a call might be said. -/
def DeviceCall.Permitted {ν : Type} (call : DeviceCall ν) : DeviceSession → List DeviceExchange → Prop
  | _, [] => True
  | q, e :: said => call.Permits q e.1 ∧ call.Permitted (q.after e) said

/-- What was said in any call might be said. -/
def AllPermitted {ν : Type} : DeviceSession → List (DeviceCall ν × List DeviceExchange) → Prop
  | _, [] => True
  | q, (call, said) :: heard => call.Permitted q said ∧ AllPermitted (q.read said) heard

/-- The other side answers as is relied on, whatever was said before. -/
def Trustworthy (party : DeviceParty) : Prop :=
  ∀ said req, (DeviceSession.read {} said).Relied req (party said req)

section

variable {ν : Type} {call : DeviceCall ν} {q q' : DeviceSession} {said : List DeviceExchange}

theorem reads_next (h : Dialogue.reads call.next q said = some q') :
    call.Permitted q said ∧ q' = q.read said := by
  induction said generalizing q with
  | nil =>
    cases h
    exact ⟨trivial, rfl⟩
  | cons e said ih =>
    obtain ⟨q₁, hnext, hrest⟩ := Option.bind_eq_some_iff.mp h
    obtain ⟨hpermits, hnext⟩ := Option.ite_none_right_eq_some.mp hnext
    cases hnext
    obtain ⟨hpermitted, hq'⟩ := ih hrest
    exact ⟨⟨hpermits, hpermitted⟩, hq'⟩

theorem allPermitted_append {heard : List (DeviceCall ν × List DeviceExchange)}
    (h : AllPermitted q heard) (hcall : call.Permitted (q.read (heard.flatMap Prod.snd)) said) :
    AllPermitted q (heard ++ [(call, said)]) := by
  induction heard generalizing q with
  | nil => exact ⟨hcall, trivial⟩
  | cons first heard ih =>
    refine ⟨h.1, ih h.2 ?_⟩
    rw [List.flatMap_cons, DeviceSession.read, List.foldl_append] at hcall
    exact hcall

end

/-! ## What the callers promise -/

/-- Only what was handed out is given back, and models are well formed. A pointer nobody knows is
harmless. -/
def Disciplined {ν : Type} (h : DeviceHoldings) (m : MemoryManager) : DeviceCall ν → Prop
  | .releaseBuffer (some a) => (m.memorys.lookup a).isSome → a ∈ h.pointers
  | .releaseBufferFd fd _ => fd ∈ h.fds
  | .getSupportedOperation (some (.operators graph)) env | .prepareModel (some graph) _ env =>
    ConstantsFit graph env
  | .prepareOfflineModel (some graph) _ _ => graph.WellFormed
  | .releaseBuffer none | .getSupportedOperation none _ | .getSupportedOperation (some (.offline _)) _
  | .prepareModel none _ _ | .prepareOfflineModel none _ _ | .allocateBuffer _ | .allocateBufferFd _
  | .prepareModelFromModelCache _ _ _ | .exportModelCache _ | .destroy _ => True

instance {ν : Type} (h : DeviceHoldings) (m : MemoryManager) :
    ∀ call : DeviceCall ν, Decidable (Disciplined h m call)
  | .releaseBuffer (some a) =>
    inferInstanceAs (Decidable ((m.memorys.lookup a).isSome → a ∈ h.pointers))
  | .releaseBufferFd fd _ => inferInstanceAs (Decidable (fd ∈ h.fds))
  | .getSupportedOperation (some (.operators graph)) env | .prepareModel (some graph) _ env =>
    inferInstanceAs (Decidable (ConstantsFit graph env))
  | .prepareOfflineModel (some graph) _ _ => inferInstanceAs (Decidable graph.WellFormed)
  | .releaseBuffer none | .getSupportedOperation none _ | .getSupportedOperation (some (.offline _)) _
  | .prepareModel none _ _ | .prepareOfflineModel none _ _ | .allocateBuffer _ | .allocateBufferFd _
  | .prepareModelFromModelCache _ _ _ | .exportModelCache _ | .destroy _ => .isTrue trivial

/-! ## One call -/

namespace DeviceHoldings

variable {h h' : DeviceHoldings} {i : Nat} {p : ExportingModel}

/-- A prepared model knows the mappings of what it has exported. -/
def Consistent (h : DeviceHoldings) : Prop :=
  ∀ p, some p ∈ h.prepared → p.exported.map Prod.fst = p.addrs

theorem caches_replace (hi : h.prepared[i]?.join = some p) :
    ∃ before after, h.caches = before ++ p.exported ++ after ∧ ∀ p', (h.replace i p').caches =
      before ++ (p'.map ExportingModel.exported).getD [] ++ after := by
  unfold caches replace
  dsimp only
  generalize h.prepared = prepared at hi
  induction prepared generalizing i with
  | nil => cases hi
  | cons first prepared ih =>
    cases i with
    | zero =>
      cases hi
      exact ⟨[], prepared.flatMap _, rfl, fun _ => rfl⟩
    | succ i =>
      obtain ⟨before, after, hold, hnew⟩ := ih hi
      refine ⟨(first.map ExportingModel.exported).getD [] ++ before, after, ?_, fun p' => ?_⟩
      · rw [List.flatMap_cons, hold]
        simp
      · rw [List.set_cons_succ, List.flatMap_cons, hnew]
        simp

theorem Consistent.replace (h : Consistent h') {p' : Option ExportingModel}
    (hp : ∀ p, p' = some p → p.exported.map Prod.fst = p.addrs) : (h'.replace i p').Consistent := by
  intro p hmem
  rcases List.mem_or_eq_of_mem_set hmem with hold | hnew
  · exact h p hold
  · exact hp p hnew.symm

theorem mem_of_join (hi : h.prepared[i]?.join = some p) : some p ∈ h.prepared := by
  exact List.mem_of_getElem? (Option.join_eq_some_iff.mp hi)

end DeviceHoldings

namespace DeviceSystem

variable {ν : Type} {default : Accessor → ν} {marshal : NodeType → List (Attribute × ν) → List Int8}
  {h : DeviceHoldings} {m : MemoryManager} {q : DeviceSession} {call : DeviceCall ν}
  {post : ReturnCode → MemoryManager → DeviceSession → Prop}

/-- The accounts of what is held. -/
structure Holds (h : DeviceHoldings) (m : MemoryManager) (q : DeviceSession) : Prop where
  accounts : Accounts h.owners m q
  consistent : h.Consistent

theorem Holds.add {p : Option HDIDevice.HDIPreparedModel} (haccounts : Accounts h.owners m q)
    (hconsistent : h.Consistent) (hp : ∀ p', p = some p' → p'.addrs = []) : Holds (h.add p) m q := by
  cases p with
  | none =>
    have heq : h.add none = h := by
      unfold DeviceHoldings.add
      rw [Option.map_none, Option.toList_none, List.append_nil]
    rw [heq]
    exact ⟨haccounts, hconsistent⟩
  | some p =>
    refine ⟨?_, fun p' hmem => ?_⟩
    · have heq : (h.add (some p)).owners = h.owners := by
        simp [DeviceHoldings.add, DeviceHoldings.owners, DeviceHoldings.caches]
      rw [heq]
      exact haccounts
    · rcases List.mem_append.mp hmem with hold | hnew
      · exact hconsistent p' hold
      · cases List.mem_singleton.mp hnew
        exact (hp p rfl).symm

/-- A pointer nobody knows is not released. -/
theorem releaseBuffer_unknown {a : Address} (h : m.memorys.lookup a = none) :
    call.Keeps post (HDIDevice.releaseBuffer (some a)) m q ↔ post .invalidParameter m q := by
  unfold HDIDevice.releaseBuffer MemoryManager.getMemory
  rw [if_neg (by simp), DeviceCall.keeps_bind, DeviceCall.keeps_get]
  dsimp only
  rw [h]
  exact Iff.rfl

namespace Holds

variable (hholds : Holds h m q)

include hholds

theorem allocateBuffer (length : UInt64) :
    (DeviceCall.allocateBuffer (ν := ν) length).Keeps Holds
      ((DeviceCall.allocateBuffer length).perform default marshal h) m q := by
  obtain ⟨haccounts, hconsistent⟩ := hholds
  unfold DeviceCall.perform
  rw [keeps_bind]
  refine haccounts.allocateBuffer (fun q' h' => ?_) fun a fd m' q' h' _ _ => ⟨h', hconsistent⟩
  refine ⟨?_, hconsistent⟩
  rw [Option.toList_none, List.append_nil]
  exact h'

theorem allocateBufferFd (length : UInt64) :
    (DeviceCall.allocateBufferFd (ν := ν) length).Keeps Holds
      ((DeviceCall.allocateBufferFd length).perform default marshal h) m q := by
  obtain ⟨haccounts, hconsistent⟩ := hholds
  unfold DeviceCall.perform
  rw [keeps_bind]
  refine haccounts.allocateBufferFd (fun ret => ?_) fun fd q' h' => ⟨?_, hconsistent⟩
  · refine ⟨?_, hconsistent⟩
    rw [Option.filter_none, Option.toList_none, List.append_nil]
    exact haccounts
  · unfold Owners.lend at h'
    by_cases hfd : 0 ≤ fd
    · rw [if_pos hfd] at h'
      rw [Option.filter_some, if_pos (decide_eq_true hfd)]
      exact h'
    · rw [if_neg hfd] at h'
      rw [Option.filter_some, if_neg (by simpa using hfd), Option.toList_none, List.append_nil]
      exact h'

theorem releaseBuffer {buffer : Option Address}
    (hcall : Disciplined h m (DeviceCall.releaseBuffer (ν := ν) buffer)) :
    (DeviceCall.releaseBuffer (ν := ν) buffer).Keeps Holds
      ((DeviceCall.releaseBuffer buffer).perform default marshal h) m q := by
  obtain ⟨haccounts, hconsistent⟩ := hholds
  unfold DeviceCall.perform
  rw [keeps_bind]
  cases buffer with
  | none => exact ⟨haccounts, hconsistent⟩
  | some a =>
    cases hlookup : m.memorys.lookup a with
    | none =>
      rw [releaseBuffer_unknown hlookup]
      exact ⟨haccounts, hconsistent⟩
    | some memory =>
      have ha : a ∈ h.pointers := hcall (by rw [hlookup]; rfl)
      refine haccounts.releaseBuffer ha (fun q' h' _ => ⟨h', hconsistent⟩) fun m' q' h' => ?_
      refine ⟨?_, hconsistent⟩
      rw [if_pos rfl]
      simpa [DeviceHoldings.owners, DeviceHoldings.caches] using h'

theorem releaseBufferFd {fd : Int32} (hfd : fd ∈ h.fds) (length : UInt64) :
    (DeviceCall.releaseBufferFd (ν := ν) fd length).Keeps Holds
      ((DeviceCall.releaseBufferFd fd length).perform default marshal h) m q := by
  unfold DeviceCall.perform
  rw [keeps_bind]
  exact hholds.accounts.releaseBufferFd hfd (fun q' h' => ⟨h', hholds.consistent⟩)
    fun q' h' => ⟨h', hholds.consistent⟩

theorem getSupportedOperation {model : Option (HDIDevice.DeviceModel ν)} {env : HDIDevice.DeviceEnv}
    (hcall : Disciplined h m (.getSupportedOperation model env)) :
    (DeviceCall.getSupportedOperation (ν := ν) model env).Keeps Holds
      ((DeviceCall.getSupportedOperation model env).perform default marshal h) m q := by
  unfold DeviceCall.perform
  rw [keeps_bind]
  refine (hholds.accounts.getSupportedOperation ?_).mono (fun _ => id)
    fun _ m' q' h' => ⟨h', hholds.consistent⟩
  rintro graph rfl
  exact hcall

theorem prepareModel {model : Option (LoadedGraph ν)} {config : ModelConfig}
    {env : HDIDevice.DeviceEnv} (hcall : Disciplined h m (.prepareModel model config env)) :
    (DeviceCall.prepareModel (ν := ν) model config env).Keeps Holds
      ((DeviceCall.prepareModel model config env).perform default marshal h) m q := by
  unfold DeviceCall.perform
  rw [keeps_bind]
  refine (hholds.accounts.prepareModel ?_).mono (fun _ => id)
    fun r m' q' h' => Holds.add h'.1 hholds.consistent h'.2
  rintro graph rfl
  exact hcall

theorem prepareModelFromModelCache (modelCache : List (Int32 × UInt64)) (config : ModelConfig)
    (env : HDIDevice.DeviceEnv) :
    (DeviceCall.prepareModelFromModelCache (ν := ν) modelCache config env).Keeps Holds
      ((DeviceCall.prepareModelFromModelCache modelCache config env).perform default marshal h)
      m q := by
  unfold DeviceCall.perform
  rw [keeps_bind]
  exact hholds.accounts.prepareModelFromModelCache.mono (fun _ => id)
    fun r m' q' h' => Holds.add h'.1 hholds.consistent h'.2

theorem prepareOfflineModel {model : Option HDIDevice.OfflineGraph} {config : ModelConfig}
    {env : HDIDevice.DeviceEnv}
    (hcall : Disciplined h m (DeviceCall.prepareOfflineModel (ν := ν) model config env)) :
    (DeviceCall.prepareOfflineModel (ν := ν) model config env).Keeps Holds
      ((DeviceCall.prepareOfflineModel model config env).perform default marshal h) m q := by
  unfold DeviceCall.perform
  rw [keeps_bind]
  cases model with
  | none => exact Holds.add hholds.accounts hholds.consistent fun p hp => by cases hp
  | some graph =>
    exact (hholds.accounts.prepareOfflineModel hcall).mono (fun _ => id)
      fun r m' q' h' => Holds.add h'.1 hholds.consistent h'.2

/-- What is exported belongs to the prepared model. -/
theorem exportModelCache (i : Nat) :
    (DeviceCall.exportModelCache (ν := ν) i).Keeps Holds
      ((DeviceCall.exportModelCache i).perform default marshal h) m q := by
  obtain ⟨haccounts, hconsistent⟩ := hholds
  unfold DeviceCall.perform
  dsimp only
  cases hi : h.prepared[i]?.join with
  | none => exact ⟨haccounts, hconsistent⟩
  | some p =>
    have hown := hconsistent p (DeviceHoldings.mem_of_join hi)
    obtain ⟨before, after, hcaches, hreplace⟩ := DeviceHoldings.caches_replace hi
    dsimp only
    rw [keeps_bind]
    refine (haccounts.exportModelCache (p := p.toHDIPreparedModel) hcaches).mono (fun _ => id) ?_
    rintro ⟨ret, exporting, modelCache⟩ m' q' ⟨hp, h'⟩
    refine ⟨?_, hconsistent.replace fun p' hp' => ?_⟩
    · unfold DeviceHoldings.owners
      rw [hreplace]
      exact h'
    · cases hp'
      dsimp only at hp ⊢
      rw [hp, List.map_append, hown]

/-- What it has exported is unmapped with it. -/
theorem destroy (i : Nat) :
    (DeviceCall.destroy (ν := ν) i).Keeps Holds
      ((DeviceCall.destroy i).perform default marshal h) m q := by
  obtain ⟨haccounts, hconsistent⟩ := hholds
  unfold DeviceCall.perform
  dsimp only
  cases hi : h.prepared[i]?.join with
  | none => exact ⟨haccounts, hconsistent⟩
  | some p =>
    have hown := hconsistent p (DeviceHoldings.mem_of_join hi)
    obtain ⟨before, after, hcaches, hreplace⟩ := DeviceHoldings.caches_replace hi
    dsimp only
    rw [keeps_bind]
    unfold HDIPreparedModel.destroy
    rw [← hown]
    refine (haccounts.unMapAddrs hcaches).mono (fun _ => id) fun _ m' q' h' => ?_
    refine ⟨?_, hconsistent.replace fun p' hp' => by cases hp'⟩
    unfold DeviceHoldings.owners
    rw [hreplace, Option.map_none, Option.getD_none, List.append_nil]
    exact h'

end Holds

/-- **One call keeps the accounts**, and asks what it may. -/
theorem perform_keeps (hholds : Holds h m q) (hcall : Disciplined h m call) :
    call.Keeps Holds (call.perform default marshal h) m q := by
  cases call with
  | allocateBuffer length => exact hholds.allocateBuffer length
  | allocateBufferFd length => exact hholds.allocateBufferFd length
  | releaseBuffer buffer => exact hholds.releaseBuffer hcall
  | releaseBufferFd fd length => exact hholds.releaseBufferFd hcall length
  | getSupportedOperation model env => exact hholds.getSupportedOperation hcall
  | prepareModel model config env => exact hholds.prepareModel hcall
  | prepareModelFromModelCache modelCache config env =>
    exact hholds.prepareModelFromModelCache modelCache config env
  | prepareOfflineModel model config env => exact hholds.prepareOfflineModel hcall
  | exportModelCache i => exact hholds.exportModelCache i
  | destroy i => exact hholds.destroy i

/-! ## Runs -/

variable {party : DeviceParty} {s s' : DeviceSystem ν} {calls : List (DeviceCall ν)}

/-- What the transcript has led to. -/
def session (s : DeviceSystem ν) : DeviceSession :=
  .read {} s.said

/-- What holds in every state. -/
structure Kept (s : DeviceSystem ν) : Prop where
  holds : Holds s.holdings s.manager s.session
  permitted : AllPermitted {} s.heard

theorem kept_empty : Kept ({} : DeviceSystem ν) where
  holds := ⟨Accounts.empty, fun p hp => by cases hp⟩
  permitted := trivial

/-- **A call of a disciplined caller does not end in an error**, and keeps what holds. -/
theorem step_kept (hparty : Trustworthy party) (hs : Kept s)
    (hcall : Disciplined s.holdings s.manager call) :
    ∃ s', s.step default marshal party call = .ok s' ∧ Kept s' := by
  have hkeeps : call.Keeps Holds (call.perform default marshal s.holdings) s.manager s.session :=
    perform_keeps hs.holds hcall
  -- The other side goes on from what was said before.
  have hreliable : Dialogue.Reliable DeviceSession.Relied call.next s.session
      fun said => party (s.said ++ said) := by
    intro said q' hreads req
    obtain ⟨-, rfl⟩ := reads_next hreads
    have hrelied := hparty (s.said ++ said) req
    rw [DeviceSession.read, List.foldl_append] at hrelied
    exact hrelied
  obtain ⟨q', hreads, hends⟩ := hkeeps.run hreliable
  obtain ⟨hpermitted, rfl⟩ := reads_next hreads
  unfold step
  generalize hout : Asking.run (fun said => party (s.said ++ said))
    (call.perform default marshal s.holdings) s.manager = out at hpermitted hends ⊢
  obtain ⟨said, result⟩ := out
  cases result with
  | error fault => exact hends.elim
  | ok result =>
    obtain ⟨holdings, manager⟩ := result
    refine ⟨_, rfl, ?_, allPermitted_append hs.permitted hpermitted⟩
    have hsession : session ⟨holdings, manager, s.heard ++ [(call, said)]⟩ =
        s.session.read said := by
      unfold session DeviceSystem.said DeviceSession.read
      rw [List.flatMap_append, List.foldl_append, List.flatMap_singleton]
    rw [hsession]
    exact hends

/-- The steps of disciplined callers. -/
abbrev DisciplinedRun (default : Accessor → ν)
    (marshal : NodeType → List (Attribute × ν) → List Int8) (party : DeviceParty)
    (calls : List (DeviceCall ν)) : Prop :=
  Run.Meets (step default marshal party)
    (fun s call => Disciplined s.holdings s.manager call) {} calls

theorem run_kept (hparty : Trustworthy party) (hcalls : DisciplinedRun default marshal party calls) :
    ∃ s, Run.exec (step default marshal party) {} calls = .ok s ∧ Kept s :=
  Run.exec_of_meets (fun _ _ hs hcall => step_kept hparty hs hcall) kept_empty hcalls

end DeviceSystem

end NNRt
