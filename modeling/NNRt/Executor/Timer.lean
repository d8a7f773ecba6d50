import NNRt.Executor.Bounds
import NNRt.Executor.Sharing
import NNRt.Executor.Unload

/-!
# The unload task

`RunSync` and `RunSyncWithAipp` remove the task that would unload the model, and
post a new one where they succeed. In between they return in some ten places.

- `setSyncDims_success_iff` / `setAippDims_success_iff`: when the reported
  dimensions are all accepted.
- `reload_asked`: when a failed reload leaves a model.
- `pending_iff`: **an idle executor with a model has exactly one task in every state
  of a run if and only if every synchronous run goes through or leaves no model.**
-/

namespace NNRt

namespace NNExecutor

/-- Whenever the model is there, one task waits to unload it. -/
def Pending (e : NNExecutor) : Prop :=
  e.preparedModel.isSome → e.autoUnloadHandler = some 1

/-! ## Calls -/

/-- What runs and unloads a model. The configuration of a reload may be set as well. -/
inductive TimerCall
  | runSync (env : ExecutorEnv) (reloadEnv : ReloadEnv)
      (inputTensors outputTensors : List (Option Nat))
  | runSyncWithAipp (env : ExecutorEnv) (reloadEnv : ReloadEnv)
      (inputTensors outputTensors : List (Option Nat))
  | deinitModel (env : ExecutorEnv) (mode : String)
  /-- The delayed task fires. -/
  | autoUnload (env : ExecutorEnv)
  | setExtensionConfig (env : ExecutorEnv) (configs : List (String × Bytes))

/-- The call, while `OH_NNModel_HasCache` is true; only `DeinitModel` asks for it. -/
def TimerCall.call : TimerCall → ExecutorEnv × ExecutorCall
  | .runSync env reloadEnv inputTensors outputTensors =>
    (env, .runSync reloadEnv inputTensors outputTensors)
  | .runSyncWithAipp env reloadEnv inputTensors outputTensors =>
    (env, .runSyncWithAipp reloadEnv inputTensors outputTensors)
  | .deinitModel env mode => ({ env with hasCache := true }, .deinitModel mode)
  | .autoUnload env => ({ env with hasCache := true }, .autoUnload)
  | .setExtensionConfig env configs => (env, .setExtensionConfig configs)

/-- One of these calls. -/
def timerStep (s : NNExecutor × World) (call : TimerCall) : Except Fault (NNExecutor × World) :=
  step s call.call

/-! ## The condition -/

/-- The shapes of the inputs are in the ranges of the device, if it has any. -/
def InRanges (w : World) (env : ExecutorEnv) (inputTensors : List (Option Nat)) : Prop :=
  env.dimRanges.code ≠ .success ∨
    (inputTensors.length = env.dimRanges.minInputDims.length ∧
      inputTensors.length = env.dimRanges.maxInputDims.length ∧
      checkInputsLoop w inputTensors env.dimRanges.minInputDims env.dimRanges.maxInputDims =
        .ok .success)

/-- A run goes through: nothing is missing or out of range, and the device answers
with dimensions that can be set. -/
structure GoesThrough (w : World) (env : ExecutorEnv)
    (inputTensors outputTensors : List (Option Nat)) : Prop where
  inRanges : InRanges w env inputTensors
  inputs : none ∉ inputTensors
  outputs : none ∉ outputTensors
  answers : RunAnswers env.run outputTensors.length
  shaped : ∀ dims ∈ env.run.outputsDims, ShapeAccepted dims

/-- The same for `RunSync`, which sets the dimensions of the user's tensors, too. -/
def SyncGoesThrough (w : World) (env : ExecutorEnv)
    (inputTensors outputTensors : List (Option Nat)) : Prop :=
  GoesThrough w env inputTensors outputTensors ∧
    ∀ address, some address ∈ outputTensors → Described w.tensors address

/-- The same for `RunSyncWithAipp`, which sets the AIPP string first. -/
def AippGoesThrough (w : World) (env : ExecutorEnv)
    (inputTensors outputTensors : List (Option Nat)) : Prop :=
  GoesThrough w env inputTensors outputTensors ∧ env.setAippString = .success

/-- `Reload` comes to asking the device: the cache is restored and its descriptions
are read. -/
def ReloadAsks (e : NNExecutor) (w : World) (env : ReloadEnv) : Prop :=
  e.cachePath ≠ "" ∧ e.cacheVersion ≠ invalidCacheVersion ∧
    ∃ reply caches mappings descs, env.cache.backend = some (some reply) ∧
      (e.reloadStore reply).restore env.cache.codec env.cache.io env.fs e.cachePath e.cacheVersion []
        w.mappings = .ok (.success, caches, mappings) ∧
      restoredDescs caches = .ok descs

/-- The condition on a synchronous run that goes through under `through`. -/
structure Reposts (through : Prop) (e : NNExecutor) (w : World) (env : ReloadEnv)
    (inputTensors outputTensors : List (Option Nat)) : Prop where
  counts : ¬ (e.inputTensorDescs.length = inputTensors.length ∧
      e.outputTensorDescs.length = outputTensors.length) → e.preparedModel = none
  loaded : e.inputTensorDescs.length = inputTensors.length →
    e.outputTensorDescs.length = outputTensors.length → e.preparedModel.isSome → through
  reloaded : e.inputTensorDescs.length = inputTensors.length →
    e.outputTensorDescs.length = outputTensors.length → e.preparedModel = none →
    ReloadAsks e w env → env.cache.prepare.1 = .success → through
  failed : e.inputTensorDescs.length = inputTensors.length →
    e.outputTensorDescs.length = outputTensors.length → e.preparedModel = none →
    ReloadAsks e w env → env.cache.prepare.1 ≠ .success → env.cache.prepare.2.1 = none

/-- The condition on a call. -/
def TimerCall.Reposts (s : NNExecutor × World) : TimerCall → Prop
  | .runSync env reloadEnv inputTensors outputTensors =>
    NNExecutor.Reposts (SyncGoesThrough s.2 env inputTensors outputTensors) s.1 s.2 reloadEnv
      inputTensors outputTensors
  | .runSyncWithAipp env reloadEnv inputTensors outputTensors =>
    NNExecutor.Reposts (AippGoesThrough s.2 env inputTensors outputTensors) s.1 s.2 reloadEnv
      inputTensors outputTensors
  | _ => True

/-! ## The reported dimensions -/

section Dims

variable {w w' : World} {ret : ReturnCode}

theorem setShape_accepted (desc : TensorDesc) {dims : List Int32} (h : ShapeAccepted dims) :
    ∃ desc', desc.setShape dims = (.success, desc') := by
  unfold TensorDesc.setShape
  rw [dif_neg (by rintro (hzero | hmany); exacts [h.1 hzero, Nat.not_le.mpr hmany h.2])]
  exact ⟨_, rfl⟩

theorem setShape_notAccepted {desc : TensorDesc} {dims : List Int32} (h : ¬ ShapeAccepted dims) :
    desc.setShape dims = (.invalidParameter, desc) := by
  unfold TensorDesc.setShape
  rw [dif_pos]
  by_contra hneither
  rw [not_or, Nat.not_lt] at hneither
  exact h hneither

/-- `RunAippModel` takes dimensions of any shape that can be set. -/
theorem setAippDims_success_iff {refs : DescRefs} {outputsDims : List (List Int32)}
    (h : setAippDims w refs outputsDims = .ok (ret, w')) :
    ret = .success ↔ ∀ dims ∈ outputsDims, ShapeAccepted dims := by
  induction outputsDims generalizing w refs with
  | nil =>
    unfold setAippDims at h
    cases h
    exact iff_of_true rfl (List.forall_mem_nil _)
  | cons dims outputsDims ih =>
    rw [List.forall_mem_cons]
    cases refs with
    | nil =>
      unfold setAippDims at h
      cases h
    | cons ref refs =>
      unfold setAippDims at h
      by_cases hshaped : ShapeAccepted dims
      · obtain ⟨desc, hdesc⟩ := setShape_accepted (w.desc ref.1) hshaped
        dsimp only at h
        rw [hdesc] at h
        rw [ih h]
        exact ⟨fun hrest => ⟨hshaped, hrest⟩, fun hboth => hboth.2⟩
      · dsimp only at h
        rw [setShape_notAccepted hshaped] at h
        cases h
        exact iff_of_false (fun heq => by cases heq) fun hboth => hshaped hboth.1

/-- A tensor that is given a shape had a description and keeps one. -/
theorem described_setTensorShape {address other : Nat} {dims : List Int32}
    (h : setTensorShape w address dims = .ok (.success, w')) :
    Described w'.tensors other ↔ Described w.tensors other := by
  obtain ⟨t, desc, desc', ht, hdesc, -, htensors⟩ := setTensorShape_success h
  rw [htensors]
  exact described_set ht (by rw [hdesc]; rfl)

/-- `RunSync` looks for the descriptions of the user's tensors as well. -/
theorem setSyncDims_success_iff {addresses : List Nat} {refs : DescRefs}
    {outputsDims : List (List Int32)} (hlength : outputsDims.length = addresses.length)
    (h : setSyncDims w addresses refs outputsDims = .ok (ret, w')) :
    ret = .success ↔ (∀ dims ∈ outputsDims, ShapeAccepted dims) ∧
      ∀ address ∈ addresses, Described w.tensors address := by
  induction addresses generalizing w refs outputsDims with
  | nil =>
    rw [List.length_nil, List.length_eq_zero_iff] at hlength
    subst hlength
    cases h
    exact iff_of_true rfl ⟨List.forall_mem_nil _, List.forall_mem_nil _⟩
  | cons address addresses ih =>
    cases outputsDims with
    | nil => cases hlength
    | cons dims outputsDims =>
      rw [List.length_cons, List.length_cons, Nat.add_right_cancel_iff] at hlength
      rw [List.forall_mem_cons, List.forall_mem_cons]
      unfold setSyncDims at h
      split at h
      · cases h
      · rename_i w₁ hshape
        obtain ⟨t, desc, desc', ht, hdesc, hset, -⟩ := setTensorShape_success hshape
        have hshaped : ShapeAccepted dims := by
          by_contra hnot
          rw [setShape_notAccepted hnot] at hset
          cases hset
        have hfirst : Described w.tensors address := by
          rw [Described, ht]
          show t.tensorDesc.isSome
          rw [hdesc]
          rfl
        split at h
        · cases h
        obtain ⟨desc₁, hdesc₁⟩ := setShape_accepted _ hshaped
        rw [hdesc₁] at h
        have hrest := ih hlength h
        rw [hrest]
        -- A new shape takes no description away from the tensors that follow.
        have hsame : ∀ other, Described w₁.tensors other ↔ Described w.tensors other :=
          fun other => described_setTensorShape hshape
        constructor
        · rintro ⟨hshapes, hdescribed⟩
          refine ⟨⟨hshaped, hshapes⟩, hfirst, fun other hother => ?_⟩
          exact (hsame other).mp (hdescribed other hother)
        · rintro ⟨⟨-, hshapes⟩, -, hdescribed⟩
          exact ⟨hshapes, fun other hother => (hsame other).mpr (hdescribed other hother)⟩
      · -- The tensor has no description, or the shape is refused.
        rename_i ret₁ w₁ hne hshape
        cases h
        refine iff_of_false hne ?_
        rintro ⟨⟨hshaped, -⟩, hdescribed, -⟩
        exact (setTensorShape_refused hshape hne).2 ⟨hdescribed, hshaped⟩

end Dims

/-! ## One run -/

section Runs

variable {e e' : NNExecutor} {w w' : World} {env : ExecutorEnv} {ret : ReturnCode}
  {inputTensors outputTensors : List (Option Nat)}

/-- The checks of the shapes answer nothing that would be passed over. -/
theorem dimsWithin_ne_forbidden (dims : List Int32) (mins maxs : List UInt32) :
    dimsWithin dims mins maxs ≠ .ok .operationForbidden := by
  induction dims generalizing mins maxs with
  | nil =>
    intro heq
    cases heq
  | cons dim dims ih =>
    unfold dimsWithin
    split
    · intro heq
      cases heq
    split
    · split
      · intro heq
        cases heq
      · exact ih _ _
    · intro heq
      cases heq

theorem checkInputsLoop_ne_forbidden (w : World) (inputs : List (Option Nat))
    (minDims maxDims : List (List UInt32)) :
    checkInputsLoop w inputs minDims maxDims ≠ .ok .operationForbidden := by
  induction inputs generalizing minDims maxDims with
  | nil =>
    unfold checkInputsLoop
    intro heq
    cases heq
  | cons input inputs ih =>
    unfold checkInputsLoop
    split
    · rename_i heq
      cases heq
      split
      · intro heq
        cases heq
      split
      · intro heq
        cases heq
      split
      · intro heq
        cases heq
      · exact ih _ _
      · rename_i hcheck
        rintro ⟨⟩
        unfold checkDimRanges at hcheck
        split at hcheck
        · cases hcheck
        · exact dimsWithin_ne_forbidden _ _ _ hcheck
    · intro heq
      cases heq

/-- The checks of the inputs are passed. -/
theorem checkInputDimRanges_passed_iff (he : e.preparedModel.isSome) :
    (e.checkInputDimRanges w env inputTensors = .ok .operationForbidden ∨
      e.checkInputDimRanges w env inputTensors = .ok .success) ↔ InRanges w env inputTensors := by
  obtain ⟨preparedModel, hsome⟩ := Option.isSome_iff_exists.mp he
  unfold checkInputDimRanges InRanges
  rw [hsome]
  dsimp only
  have hloop := checkInputsLoop_ne_forbidden w inputTensors env.dimRanges.minInputDims
    env.dimRanges.maxInputDims
  by_cases hasked : env.dimRanges.code = .success
  · rw [if_neg (not_not.mpr hasked)]
    by_cases hmins : inputTensors.length = env.dimRanges.minInputDims.length
    · rw [if_neg (not_not.mpr hmins)]
      by_cases hmaxs : inputTensors.length = env.dimRanges.maxInputDims.length
      · rw [if_neg (not_not.mpr hmaxs)]
        constructor
        · rintro (hforbidden | hsuccess)
          · exact absurd hforbidden hloop
          · exact Or.inr ⟨hmins, hmaxs, hsuccess⟩
        · rintro (hnot | ⟨-, -, hsuccess⟩)
          · exact absurd hasked hnot
          · exact Or.inr hsuccess
      · rw [if_pos hmaxs]
        refine iff_of_false (by rintro (⟨⟨⟩⟩ | ⟨⟨⟩⟩)) ?_
        rintro (hnot | ⟨-, hmaxs', -⟩)
        · exact hnot hasked
        · exact hmaxs hmaxs'
    · rw [if_pos hmins]
      refine iff_of_false (by rintro (⟨⟨⟩⟩ | ⟨⟨⟩⟩)) ?_
      rintro (hnot | ⟨hmins', -⟩)
      · exact hnot hasked
      · exact hmins hmins'
  · -- A device that knows no ranges is not asked for them.
    rw [if_pos hasked]
    exact iff_of_true (Or.inl rfl) (Or.inl hasked)

theorem syncReady_iff (he : e.preparedModel.isSome) :
    e.SyncReady w env inputTensors outputTensors ↔
      InRanges w env inputTensors ∧ none ∉ inputTensors ∧ none ∉ outputTensors := by
  unfold SyncReady
  rw [checkInputDimRanges_passed_iff he]

/-- A run of the tensors posts its task exactly if it succeeds, and that is when the
device can be asked, answers, and reports what `accepts`. -/
theorem tensorsWith_success_iff {setDims : SetDims} {accepts : Prop} (he : e.preparedModel.isSome)
    (hdims : ∀ inputs outputs ret w', outputTensors = outputs.map some →
      env.run.outputsDims.length = outputTensors.length →
      setDims (askDevice w inputs outputs) outputs e.outputTensorDescs env.run.outputsDims
        = .ok (ret, w') → (ret = .success ↔ accepts))
    (h : e.tensorsWith setDims w env inputTensors outputTensors = .ok (ret, e', w')) :
    e' = e.posted ret ∧ (ret = .success ↔
      (InRanges w env inputTensors ∧ none ∉ inputTensors ∧ none ∉ outputTensors) ∧
        RunAnswers env.run outputTensors.length ∧ accepts) := by
  rw [← syncReady_iff he]
  cases tensorsWith_ran h with
  | refused hready hret =>
    refine ⟨by rw [posted, if_neg hret], iff_of_false hret ?_⟩
    exact fun hall => hready hall.1
  | failed hready hanswers hret =>
    refine ⟨by rw [posted, if_neg hret], iff_of_false hret ?_⟩
    exact fun hall => hanswers hall.2.1
  | reported hready hanswers houtputs hset =>
    refine ⟨rfl, ?_⟩
    rw [hdims _ _ _ _ houtputs hanswers.2 hset]
    exact ⟨fun haccepts => ⟨hready, hanswers, haccepts⟩, fun hall => hall.2.2⟩

theorem runSyncTensors_success_iff (he : e.preparedModel.isSome)
    (h : e.runSyncTensors w env inputTensors outputTensors = .ok (ret, e', w')) :
    e' = e.posted ret ∧ (ret = .success ↔ SyncGoesThrough w env inputTensors outputTensors) := by
  rw [runSyncTensors_eq] at h
  have hdims : ∀ inputs outputs ret w', outputTensors = outputs.map some →
      env.run.outputsDims.length = outputTensors.length →
      setSyncDims (askDevice w inputs outputs) outputs e.outputTensorDescs env.run.outputsDims
        = .ok (ret, w') → (ret = .success ↔ (∀ dims ∈ env.run.outputsDims, ShapeAccepted dims) ∧
          ∀ address, some address ∈ outputTensors → Described w.tensors address) := by
    intro inputs outputs ret w' houtputs hlength hset
    rw [houtputs, List.length_map] at hlength
    rw [setSyncDims_success_iff hlength hset, houtputs]
    have hmem : (∀ address, some address ∈ outputs.map some → Described w.tensors address) ↔
        ∀ address ∈ outputs, Described w.tensors address := by
      simp
    rw [hmem]
    exact Iff.rfl
  obtain ⟨he', hiff⟩ := tensorsWith_success_iff he hdims h
  refine ⟨he', hiff.trans ?_⟩
  constructor
  · rintro ⟨⟨hranges, hin, hout⟩, hanswers, hshaped, hdescribed⟩
    exact ⟨⟨hranges, hin, hout, hanswers, hshaped⟩, hdescribed⟩
  · rintro ⟨⟨hranges, hin, hout, hanswers, hshaped⟩, hdescribed⟩
    exact ⟨⟨hranges, hin, hout⟩, hanswers, hshaped, hdescribed⟩

theorem runAippTensors_success_iff (he : e.preparedModel.isSome)
    (h : e.runAippTensors w env inputTensors outputTensors = .ok (ret, e', w')) :
    e' = e.posted ret ∧ (ret = .success ↔ AippGoesThrough w env inputTensors outputTensors) := by
  by_cases hset : env.setAippString = .success
  · rw [runAippTensors_eq e w env inputTensors outputTensors hset] at h
    obtain ⟨he', hiff⟩ := tensorsWith_success_iff he
      (fun _ _ _ _ _ _ hdims => setAippDims_success_iff hdims) h
    refine ⟨he', hiff.trans ?_⟩
    constructor
    · rintro ⟨⟨hranges, hin, hout⟩, hanswers, hshaped⟩
      exact ⟨⟨hranges, hin, hout, hanswers, hshaped⟩, hset⟩
    · rintro ⟨⟨hranges, hin, hout, hanswers, hshaped⟩, -⟩
      exact ⟨⟨hranges, hin, hout⟩, hanswers, hshaped⟩
  · obtain ⟨hret, rfl, -⟩ := runAippTensors_unset env inputTensors outputTensors hset h
    exact ⟨by rw [posted, if_neg hret], iff_of_false hret fun hall => hset hall.2⟩

end Runs

/-! ## Reloads -/

section Reload

variable {e e' : NNExecutor} {w w' : World} {env : ReloadEnv} {ret : ReturnCode}

/-- The handler is none of the fields that `Reload` sets. -/
theorem reload_handler (h : e.reload w env = .ok (ret, e', w')) :
    e'.autoUnloadHandler = e.autoUnloadHandler := by
  cases reload_reloaded h with
  | refused => rfl
  | unprepared => rfl
  | prepared => rfl

/-- With a store to restore from, it is the buffers and their descriptions that count. -/
theorem reloadAsks_iff {reply : OpVersionReply} (hpath : ¬ e.cachePath = "")
    (hversion : ¬ e.cacheVersion = invalidCacheVersion)
    (hbackend : env.cache.backend = some (some reply)) :
    ReloadAsks e w env ↔ ∃ caches mappings descs,
      (e.reloadStore reply).restore env.cache.codec env.cache.io env.fs e.cachePath
        e.cacheVersion [] w.mappings = .ok (.success, caches, mappings) ∧
      restoredDescs caches = .ok descs := by
  constructor
  · rintro ⟨-, -, reply', caches, mappings, descs, hreply, hall⟩
    rw [hbackend] at hreply
    cases hreply
    exact ⟨caches, mappings, descs, hall⟩
  · rintro ⟨caches, mappings, descs, hall⟩
    exact ⟨hpath, hversion, reply, caches, mappings, descs, hbackend, hall⟩

/-- `Reload` ends before the device is asked, or with what the device has answered. -/
theorem reload_asked (hmodel : e.preparedModel = none) (h : e.reload w env = .ok (ret, e', w')) :
    (¬ ReloadAsks e w env ∧ ret ≠ .success ∧ e'.preparedModel = none) ∨
      (ReloadAsks e w env ∧ ret = env.cache.prepare.1 ∧
        e'.preparedModel = env.cache.prepare.2.1) := by
  unfold reload at h
  split at h
  · rename_i hpath
    cases h
    exact Or.inl ⟨fun hasks => hasks.1 hpath, nofun, hmodel⟩
  rename_i hpath
  split at h
  · rename_i hversion
    cases h
    exact Or.inl ⟨fun hasks => hasks.2.1 hversion, nofun, hmodel⟩
  rename_i hversion
  rw [if_neg (by rw [hmodel]; exact Bool.false_ne_true)] at h
  cases hbackend : env.cache.backend with
  | none =>
    rw [hbackend] at h
    cases h
    refine Or.inl ⟨?_, nofun, hmodel⟩
    rintro ⟨-, -, reply, caches, mappings, descs, hreply, -⟩
    rw [hbackend] at hreply
    cases hreply
  | some device =>
    cases device with
    | none =>
      rw [hbackend] at h
      cases h
      refine Or.inl ⟨?_, nofun, hmodel⟩
      rintro ⟨-, -, reply, caches, mappings, descs, hreply, -⟩
      rw [hbackend] at hreply
      cases hreply
    | some reply =>
      -- What `Restore` and the descriptions say decides whether the device is asked.
      rw [hbackend] at h
      dsimp only [NNCompiledCache.setBackend] at h
      rw [reloadAsks_iff hpath hversion hbackend]
      split at h
      · cases h
      rename_i ret₁ caches mappings hrestore
      split at h
      · rename_i hret
        cases h
        refine Or.inl ⟨?_, hret, hmodel⟩
        rintro ⟨caches', mappings', descs, hrestore', -⟩
        cases hrestore.symm.trans hrestore'
        exact hret rfl
      · rename_i hret
        rw [not_not] at hret
        subst hret
        cases reloadCaches_reloaded h with
        | unread hne hdescs =>
          refine Or.inl ⟨?_, hne, hmodel⟩
          rintro ⟨caches', mappings', descs, hrestore', hdescs'⟩
          cases hrestore.symm.trans hrestore'
          exact hdescs ⟨descs, hdescs'⟩
        | unprepared hdescs _ =>
          exact Or.inr ⟨⟨caches, mappings, _, hrestore, hdescs⟩, rfl, rfl⟩
        | prepared _ hdescs hprepare =>
          exact Or.inr ⟨⟨caches, mappings, _, hrestore, hdescs⟩, hprepare.symm, rfl⟩

end Reload

/-! ## The task -/

section Task

variable {e e' : NNExecutor} {w w' : World} {ret : ReturnCode}
  {inputTensors outputTensors : List (Option Nat)}

/-- Without a task the model must be gone. -/
theorem pending_iff_of_zero (h : e.autoUnloadHandler = some 0) :
    Pending e ↔ e.preparedModel = none := by
  unfold Pending
  rw [h]
  constructor
  · intro hpending
    by_contra hmodel
    exact absurd (hpending (Option.isSome_iff_ne_none.mpr hmodel)) (by decide)
  · intro hnone hsome
    rw [hnone] at hsome
    cases hsome

/-- With the model there, the task is posted by a success. -/
theorem pending_posted_iff (h : e.autoUnloadHandler = some 0) (he : e.preparedModel.isSome) :
    Pending (e.posted ret) ↔ ret = .success := by
  unfold posted
  split
  · rename_i hret
    refine iff_of_true ?_ hret
    intro _
    show e.autoUnloadHandler.map (· + 1) = some 1
    rw [h]
    rfl
  · rename_i hret
    rw [pending_iff_of_zero h]
    refine iff_of_false ?_ hret
    exact Option.isSome_iff_ne_none.mp he

theorem checkInputsLoop_tensors (h : w'.tensors = w.tensors) (inputs : List (Option Nat))
    (minDims maxDims : List (List UInt32)) :
    checkInputsLoop w' inputs minDims maxDims = checkInputsLoop w inputs minDims maxDims := by
  induction inputs generalizing minDims maxDims with
  | nil => rfl
  | cons input inputs ih =>
    cases minDims with
    | nil => rfl
    | cons mins minDims =>
      cases maxDims with
      | nil => rfl
      | cons maxs maxDims =>
        cases input with
        | none => rfl
        | some address =>
          rw [checkInputsLoop, checkInputsLoop, h]
          cases w.tensors[address]? with
          | none => rfl
          | some t =>
            dsimp only
            rw [ih]

/-- Whether a run goes through depends on the tensors of the user only. -/
theorem goesThrough_tensors (h : w'.tensors = w.tensors) {env : ExecutorEnv} :
    GoesThrough w' env inputTensors outputTensors ↔
      GoesThrough w env inputTensors outputTensors := by
  have hranges : InRanges w' env inputTensors ↔ InRanges w env inputTensors := by
    unfold InRanges
    rw [checkInputsLoop_tensors h]
  constructor
  · rintro ⟨hin, hinputs, houtputs, hanswers, hshaped⟩
    exact ⟨hranges.mp hin, hinputs, houtputs, hanswers, hshaped⟩
  · rintro ⟨hin, hinputs, houtputs, hanswers, hshaped⟩
    exact ⟨hranges.mpr hin, hinputs, houtputs, hanswers, hshaped⟩

variable {runTensors : NNExecutor → World → Outcome} {through : World → Prop} {env : ReloadEnv}

/-- How a way of running the tensors posts its task: when the run goes `through`. -/
structure PostsTask (runTensors : NNExecutor → World → Outcome) (through : World → Prop) :
    Prop where
  posted : ∀ e w ret e' w', e.preparedModel.isSome → runTensors e w = .ok (ret, e', w') →
    e' = e.posted ret ∧ (ret = .success ↔ through w)
  needsModel : NeedsModel runTensors
  tensors : ∀ w w', w'.tensors = w.tensors → (through w' ↔ through w)

theorem postsTask_runSyncTensors (env : ExecutorEnv)
    (inputTensors outputTensors : List (Option Nat)) :
    PostsTask (fun e w => e.runSyncTensors w env inputTensors outputTensors)
      (fun w => SyncGoesThrough w env inputTensors outputTensors) where
  posted _ _ _ _ _ he h := runSyncTensors_success_iff he h
  needsModel := needsModel_runSyncTensors env inputTensors outputTensors
  tensors w w' h := by
    unfold SyncGoesThrough
    rw [goesThrough_tensors h, h]

theorem postsTask_runAippTensors (env : ExecutorEnv)
    (inputTensors outputTensors : List (Option Nat)) :
    PostsTask (fun e w => e.runAippTensors w env inputTensors outputTensors)
      (fun w => AippGoesThrough w env inputTensors outputTensors) where
  posted _ _ _ _ _ he h := runAippTensors_success_iff he h
  needsModel := needsModel_runAippTensors env inputTensors outputTensors
  tensors w w' h := by
    unfold AippGoesThrough
    rw [goesThrough_tensors h]

/-- A run with the model. -/
theorem loadedRun_pending_iff (hposts : PostsTask runTensors through)
    (hzero : e.autoUnloadHandler = some 0) (hmodel : e.preparedModel.isSome)
    (h : runTensors e w = .ok (ret, e', w')) : Pending e' ↔ through w := by
  obtain ⟨rfl, hsuccess⟩ := hposts.posted e w ret e' w' hmodel h
  rw [pending_posted_iff hzero hmodel, hsuccess]

/-- A run that has to restore the model first. -/
theorem reloadAndRun_pending_iff (hposts : PostsTask runTensors through)
    (hzero : e.autoUnloadHandler = some 0) (hnone : e.preparedModel = none)
    (h : reloadAndRun runTensors e w env = .ok (ret, e', w')) :
    Pending e' ↔ (ReloadAsks e w env → (env.cache.prepare.1 = .success → through w) ∧
      (env.cache.prepare.1 ≠ .success → env.cache.prepare.2.1 = none)) := by
  unfold reloadAndRun at h
  split at h
  · cases h
  · -- The model is restored and run.
    rename_i e₁ w₁ hreload
    obtain ⟨hreload, -⟩ := autoReload_success hreload
    have hzero₁ : e₁.autoUnloadHandler = some 0 := (reload_handler hreload).trans hzero
    rcases reload_asked hnone hreload with ⟨-, hne, -⟩ | ⟨hasks, hprepare, -⟩
    · exact absurd rfl hne
    cases hmodel₁ : e₁.preparedModel with
    | none =>
      have hfault := hposts.needsModel.unloaded e₁ w₁ hmodel₁
      rw [hfault] at h
      cases h
    | some model =>
      have hsome : e₁.preparedModel.isSome := by
        rw [hmodel₁]
        rfl
      have hiff : Pending e' ↔ through w := by
        rw [loadedRun_pending_iff hposts hzero₁ hsome h]
        exact hposts.tensors w w₁ (reload_tensors hreload)
      rw [hiff]
      constructor
      · exact fun hthrough _ => ⟨fun _ => hthrough, fun hne => absurd hprepare.symm hne⟩
      · exact fun hall => (hall hasks).1 hprepare.symm
  · -- Nothing is restored, or a model whose preparation has failed.
    rename_i ret₁ e₁ w₁ hne hreload
    cases h
    obtain ⟨-, ret₂, hne₂, hreload⟩ := autoReload_failed hreload hne
    have hzero₁ : e'.autoUnloadHandler = some 0 := (reload_handler hreload).trans hzero
    rw [pending_iff_of_zero hzero₁]
    rcases reload_asked hnone hreload with ⟨hnot, -, hkept⟩ | ⟨hasks, hprepare, hkept⟩
    · exact iff_of_true hkept fun hasks => absurd hasks hnot
    · have hfailed : env.cache.prepare.1 ≠ .success := by
        rw [← hprepare]
        exact hne₂
      rw [hkept]
      constructor
      · exact fun hnone' _ => ⟨fun hsuccess => absurd hsuccess hfailed, fun _ => hnone'⟩
      · exact fun hall => (hall hasks).2 hfailed

/-- **A synchronous run** leaves the task it should exactly if it meets the condition. -/
theorem syncWith_pending_iff (hposts : PostsTask runTensors through)
    (h : syncWith runTensors e w env inputTensors outputTensors = .ok (ret, e', w')) :
    Pending e' ↔ Reposts (through w) e w env inputTensors outputTensors := by
  unfold syncWith at h
  split at h
  · cases h
  dsimp only at h
  by_cases hin : e.inputTensorDescs.length = inputTensors.length
  · rw [if_neg (not_not.mpr hin)] at h
    by_cases hout : e.outputTensorDescs.length = outputTensors.length
    · rw [if_neg (not_not.mpr hout)] at h
      by_cases hmodel : e.preparedModel.isSome
      · rw [if_pos hmodel] at h
        have hnot : e.preparedModel ≠ none := Option.isSome_iff_ne_none.mp hmodel
        -- The task has been removed, and only a run that goes through posts a new one.
        have hzero : ({ e with autoUnloadHandler := some 0 } : NNExecutor).autoUnloadHandler
          = some 0 := rfl
        rw [loadedRun_pending_iff hposts hzero hmodel h]
        constructor
        · intro hthrough
          exact ⟨fun hcounts => absurd ⟨hin, hout⟩ hcounts, fun _ _ _ => hthrough,
            fun _ _ hnone => absurd hnone hnot, fun _ _ hnone => absurd hnone hnot⟩
        · exact fun hreposts => hreposts.loaded hin hout hmodel
      · rw [if_neg hmodel] at h
        have hnone : e.preparedModel = none := Option.not_isSome_iff_eq_none.mp hmodel
        have hzero : ({ e with autoUnloadHandler := some 0 } : NNExecutor).autoUnloadHandler
          = some 0 := rfl
        rw [reloadAndRun_pending_iff hposts hzero hnone h]
        constructor
        · intro hall
          exact ⟨fun _ => hnone, fun _ _ hsome => absurd hsome hmodel,
            fun _ _ _ hasks => (hall hasks).1, fun _ _ _ hasks => (hall hasks).2⟩
        · exact fun hreposts hasks => ⟨hreposts.reloaded hin hout hnone hasks,
            hreposts.failed hin hout hnone hasks⟩
    · rw [if_pos hout] at h
      cases h
      rw [pending_iff_of_zero rfl]
      constructor
      · intro hnone
        exact ⟨fun _ => hnone, fun _ heq => absurd heq hout, fun _ heq => absurd heq hout,
          fun _ heq => absurd heq hout⟩
      · exact fun hreposts => hreposts.counts fun hcounts => hout hcounts.2
  · rw [if_pos hin] at h
    cases h
    rw [pending_iff_of_zero rfl]
    constructor
    · intro hnone
      exact ⟨fun _ => hnone, fun heq => absurd heq hin, fun heq => absurd heq hin,
        fun heq => absurd heq hin⟩
    · exact fun hreposts => hreposts.counts fun hcounts => hin hcounts.1

end Task

/-! ## Runs of calls -/

/-- `DeinitModel` in any mode leaves no model. -/
theorem deinitModel_preparedModel {e : NNExecutor} {env : ExecutorEnv} (mode : String)
    (hcache : env.hasCache = true) : (e.deinitModel env mode).2.preparedModel = none := by
  unfold deinitModel
  cases he : e.preparedModel with
  | none => exact he
  | some preparedModel =>
    dsimp only
    rw [if_pos hcache]

theorem pending_of_none {e : NNExecutor} (h : e.preparedModel = none) : Pending e := by
  intro hsome
  rw [h] at hsome
  cases hsome

/-- **One call** leaves the task it should exactly if it meets its condition. -/
theorem pending_step_iff {s s' : NNExecutor × World} {call : TimerCall} (hpending : Pending s.1)
    (h : timerStep s call = .ok s') : Pending s'.1 ↔ call.Reposts s := by
  obtain ⟨e, w⟩ := s
  obtain ⟨e', w'⟩ := s'
  obtain ⟨ret, hperform⟩ := step_eq_ok h
  cases call with
  | runSync env reloadEnv inputTensors outputTensors =>
    exact syncWith_pending_iff (postsTask_runSyncTensors env inputTensors outputTensors) hperform
  | runSyncWithAipp env reloadEnv inputTensors outputTensors =>
    exact syncWith_pending_iff (postsTask_runAippTensors env inputTensors outputTensors) hperform
  | deinitModel env mode =>
    have hstate : e' = (e.deinitModel { env with hasCache := true } mode).2 :=
      (state_of_ok hperform).1
    refine iff_of_true ?_ trivial
    rw [hstate]
    exact pending_of_none (deinitModel_preparedModel mode rfl)
  | autoUnload env =>
    have hstate : e' = e.autoUnload { env with hasCache := true } := (state_of_ok hperform).1
    refine iff_of_true ?_ trivial
    rw [hstate]
    unfold autoUnload
    split
    · exact pending_of_none (deinitModel_preparedModel "DelayUnload" rfl)
    · exact hpending
  | setExtensionConfig env configs =>
    refine iff_of_true ?_ trivial
    obtain ⟨config, hrest⟩ := e.setExtensionConfig_rest env configs
    have hstate : e' = (e.setExtensionConfig env configs).2 ∧ w' = w := state_of_ok hperform
    rw [hstate.1, hrest]
    exact hpending

/-- **The unload task**: from the constructor on, a model that is there has exactly
one task waiting in every state of a run, exactly if every synchronous run meets its
condition. -/
theorem pending_iff {c : NNCompiler Nat} {preparedModel : PreparedModel} {w : World}
    {calls : List TimerCall} {s : NNExecutor × World}
    (h : Run.exec timerStep (NNExecutor.create c preparedModel, w) calls = .ok s) :
    (∀ before, before <+: calls → ∀ t,
      Run.exec timerStep (NNExecutor.create c preparedModel, w) before = .ok t → Pending t.1) ↔
      Run.Meets timerStep (fun s call => call.Reposts s) (NNExecutor.create c preparedModel, w)
        calls :=
  Run.prefixes_iff_meets (I := fun _ => True) (P := fun s => Pending s.1) (fun _ _ _ _ _ => trivial)
    (fun _ _ _ _ hpending hstep => pending_step_iff hpending hstep) trivial (fun _ => rfl) h

/-- A run without tensors, of a model that has one input and one output. -/
def runNothing : TimerCall :=
  .runSync {} noReload [] []

/-- Two runs, an unload behind them, and a task that comes too late. -/
def servedRuns : List TimerCall :=
  [.runSync (reports [2]) noReload [some 0] [some 1],
    .runSyncWithAipp (reports [2]) noReload [some 0] [some 1],
    .deinitModel {} "FrozenDeinit", .autoUnload {}]

/-- The runs go through and post a task each; the frozen executor has no model and needs none. -/
theorem pending_iff_served :
    (∃ s, Run.exec timerStep (smallExecutor, twoTensors) servedRuns = .ok s ∧
      s.2.runs.length = 2) ∧
    Run.Meets timerStep (fun s call => call.Reposts s) (smallExecutor, twoTensors) servedRuns := by
  obtain ⟨s, h, hruns⟩ : ∃ s, Run.exec timerStep (smallExecutor, twoTensors) servedRuns = .ok s ∧
      s.2.runs.length = 2 := ⟨_, rfl, rfl⟩
  have hstates : ∀ n < 5, ∃ t, Run.exec timerStep (smallExecutor, twoTensors) (servedRuns.take n)
      = .ok t ∧ Pending t.1 := by
    intro n hn
    rcases n with _ | _ | _ | _ | _ | n
    · exact ⟨_, rfl, fun _ => rfl⟩
    · exact ⟨_, rfl, fun _ => rfl⟩
    · exact ⟨_, rfl, fun _ => rfl⟩
    · exact ⟨_, rfl, nofun⟩
    · exact ⟨_, rfl, nofun⟩
    · omega
  refine ⟨⟨s, h, hruns⟩, (pending_iff h).mp fun before hbefore t ht => ?_⟩
  obtain ⟨t', ht', hpending⟩ := hstates before.length (Nat.lt_succ_of_le hbefore.length_le)
  have ht : Run.exec timerStep (smallExecutor, twoTensors) before = .ok t := ht
  rw [← List.prefix_iff_eq_take.mp hbefore, ht] at ht'
  cases ht'
  exact hpending

/-- The run is refused, and nothing will unload the model any more. -/
theorem refusedRun_not_pending : ∃ e w, Run.exec timerStep
      (NNExecutor.create ((smallCompiler [2]).share {}).1 ⟨0, (.success, []), .success⟩, {})
        [runNothing] = .ok (e, w) ∧
    e.preparedModel.isSome ∧ e.autoUnloadHandler = some 0 ∧ ¬ Pending e := by
  refine ⟨_, _, rfl, rfl, rfl, fun hpending => ?_⟩
  exact absurd (hpending rfl) (by decide)

end NNExecutor

end NNRt
