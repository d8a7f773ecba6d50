import NNRt.Executor.Timer

/-!
# The two synchronous runs side by side

`RunSync` and `RunSyncWithAipp` are written out twice. With a device that does not
look at the AIPP string they should leave the same, but only `RunSync` writes the
reported dimensions to the tensors of the user, and checks that these have a
description.

- `setDims_compared`: how far the two loops over the reported dimensions come.
- `autoReload_restores_iff`: when a model is restored, and for how many outputs.
- `runs_agree_iff`: **both leave the same exactly if the loop of `RunSync` finds a
  description in every tensor, and the dimensions already there.**
- `runs_disagree`: they do not for a dynamic output.
-/

namespace NNRt

/-- The dimensions of a tensor of the user. -/
def World.userShape (w : World) (address : Nat) : Option (List Int32) :=
  (w.tensors[address]?).bind fun t => t.tensorDesc.map TensorDesc.shape

namespace NNExecutor

/-- Only the tensors of the user may differ. -/
def SameButTensors (w v : World) : Prop :=
  v = { w with tensors := v.tensors }

/-- Both runs fault in the same way, or they leave the same code and the same state;
of the tensors of the user, the dimensions of the outputs. -/
def SameOutcome (outputTensors : List (Option Nat)) : Outcome → Outcome → Prop
  | .error fault, .error fault' => fault = fault'
  | .ok (ret, e, w), .ok (ret', e', w') =>
    ret = ret' ∧ e = e' ∧ SameButTensors w w' ∧
      ∀ address, some address ∈ outputTensors → w.userShape address = w'.userShape address
  | _, _ => False

/-! ## The condition -/

/-- The reported dimensions before the first that `SetShape` refuses. -/
def settable (outputsDims : List (List Int32)) : List (List Int32) :=
  outputsDims.takeWhile fun dims => ShapeAccepted dims

/-- `RunSync` comes as far as `RunSyncWithAipp`, when the executor has `count`
descriptions of outputs. -/
structure KeepsUp (w : World) (count : Nat) (outputTensors : List (Option Nat))
    (outputsDims : List (List Int32)) : Prop where
  /-- It does not miss a description before the other stops. -/
  described : ∀ i address, outputTensors[i]? = some (some address) →
    i ≤ (settable outputsDims).length → i ≤ count → Described w.tensors address
  /-- The two do not stop in different ways at the last description. -/
  counted : (settable outputsDims).length < outputsDims.length →
    count ≠ (settable outputsDims).length

/-- What `RunSync` writes to the tensors of the user is there already. -/
structure Unnoticed (w : World) (count : Nat) (outputTensors : List (Option Nat))
    (outputsDims : List (List Int32)) : Prop extends KeepsUp w count outputTensors outputsDims where
  shapes : (settable outputsDims).length ≤ count → ∀ address dims,
    lastReported address outputTensors (settable outputsDims) = some dims →
    w.userShape address = some dims

/-- The cache holds a model with `count` outputs, and the device prepares it. -/
structure Restores (e : NNExecutor) (w : World) (env : ReloadEnv) (count : Nat) : Prop where
  cachePath : e.cachePath ≠ ""
  cacheVersion : e.cacheVersion ≠ invalidCacheVersion
  config : e.executorConfig.isSome
  prepare : env.cache.prepare.1 = .success
  model : env.cache.prepare.2.1.isSome
  descs : ∃ reply caches mappings descs, env.cache.backend = some (some reply) ∧
    (e.reloadStore reply).restore env.cache.codec env.cache.io env.fs e.cachePath e.cacheVersion []
      w.mappings = .ok (.success, caches, mappings) ∧
    cacheInputTensorDescOffset ≤ caches.length ∧ restoredDescs caches = .ok descs ∧
    descs.2.length = count

/-- The device is asked to run the tensors, and answers with dimensions. -/
structure DeviceAnswers (w : World) (env : ExecutorEnv)
    (inputTensors outputTensors : List (Option Nat)) : Prop where
  inRanges : InRanges w env inputTensors
  inputs : none ∉ inputTensors
  outputs : none ∉ outputTensors
  answers : RunAnswers env.run outputTensors.length

/-- The device answers, and the executor has `count` descriptions of outputs then: as
many as outputs, or those of the cache. -/
structure Answered (e : NNExecutor) (w : World) (env : ExecutorEnv) (reloadEnv : ReloadEnv)
    (inputTensors outputTensors : List (Option Nat)) (count : Nat) : Prop
    extends DeviceAnswers w env inputTensors outputTensors where
  handler : e.autoUnloadHandler.isSome
  inputCount : e.inputTensorDescs.length = inputTensors.length
  outputCount : e.outputTensorDescs.length = outputTensors.length
  model : e.preparedModel.isSome ∧ count = outputTensors.length ∨
    e.preparedModel = none ∧ e.Restores w reloadEnv count

/-! ## The two loops -/

section Loops

variable {w v w' v' : World} {ret : ReturnCode}

theorem settable_cons {dims : List Int32} (h : ShapeAccepted dims)
    (outputsDims : List (List Int32)) :
    settable (dims :: outputsDims) = dims :: settable outputsDims :=
  List.takeWhile_cons_of_pos (decide_eq_true h)

theorem settable_cons_refused {dims : List Int32} (h : ¬ ShapeAccepted dims)
    (outputsDims : List (List Int32)) : settable (dims :: outputsDims) = [] :=
  List.takeWhile_cons_of_neg fun htrue => h (of_decide_eq_true htrue)

/-- What is to be compared of one output more. -/
theorem keepsUp_cons_iff {count address : Nat} {outputTensors : List (Option Nat)}
    {dims : List Int32} {outputsDims : List (List Int32)} (hdims : ShapeAccepted dims)
    (hsame : ∀ other, Described w'.tensors other ↔ Described w.tensors other)
    (hdesc : Described w.tensors address) :
    KeepsUp w (count + 1) (some address :: outputTensors) (dims :: outputsDims) ↔
      KeepsUp w' count outputTensors outputsDims := by
  constructor
  · rintro ⟨hdescribed, hcounted⟩
    rw [settable_cons hdims] at hdescribed hcounted
    constructor
    · intro i other hother hi hcount
      rw [hsame]
      refine hdescribed (i + 1) other ?_ ?_ (Nat.succ_le_succ hcount)
      · rw [List.getElem?_cons_succ]
        exact hother
      · exact Nat.succ_le_succ hi
    · intro hlt heq
      refine hcounted ?_ ?_
      · exact Nat.succ_lt_succ hlt
      · rw [List.length_cons, heq]
  · rintro ⟨hdescribed, hcounted⟩
    constructor
    · rw [settable_cons hdims]
      intro i other hother hi hcount
      cases i with
      | zero =>
        cases hother
        exact hdesc
      | succ i =>
        rw [List.getElem?_cons_succ] at hother
        rw [← hsame]
        exact hdescribed i other hother (Nat.le_of_succ_le_succ hi) (Nat.le_of_succ_le_succ hcount)
    · rw [settable_cons hdims]
      intro hlt heq
      exact hcounted (Nat.lt_of_succ_lt_succ hlt) (Nat.succ.inj heq)

/-- `RunAippModel` does not look for a description of the user's. -/
theorem setAippDims_ne_nullPtr {refs : DescRefs} {outputsDims : List (List Int32)} :
    setAippDims w refs outputsDims ≠ .ok (.nullPtr, w') := by
  induction outputsDims generalizing w refs with
  | nil =>
    unfold setAippDims
    intro heq
    cases heq
  | cons dims outputsDims ih =>
    unfold setAippDims
    cases refs with
    | nil =>
      intro heq
      cases heq
    | cons ref refs =>
      by_cases hdims : ShapeAccepted dims
      · obtain ⟨desc, hset⟩ := setShape_accepted (w.desc ref.1) hdims
        dsimp only
        rw [hset]
        exact ih
      · dsimp only
        rw [setShape_notAccepted hdims]
        intro heq
        cases heq

/-- How the two loops end, the one of `RunSync` first. -/
inductive Compared (keepsUp enough : Prop) (tensors : List NNTensor2_0) :
    Except Fault (ReturnCode × World) → Except Fault (ReturnCode × World) → Prop
  /-- Both run out of descriptions. -/
  | faults (fault : Fault) (hkeeps : keepsUp) (hfew : ¬ enough) :
    Compared keepsUp enough tensors (.error fault) (.error fault)
  /-- Both come to the end, or to dimensions that are refused. -/
  | ends {ret : ReturnCode} {w v : World} (hkeeps : keepsUp) (henough : enough)
    (hret : ret ≠ .nullPtr) (hsame : SameButTensors w v) (htensors : v.tensors = tensors) :
    Compared keepsUp enough tensors (.ok (ret, w)) (.ok (ret, v))
  | differs {sync aipp : Except Fault (ReturnCode × World)} (hnot : ¬ keepsUp)
    (hne : sync.map Prod.fst ≠ aipp.map Prod.fst) : Compared keepsUp enough tensors sync aipp

theorem SameButTensors.desc (h : SameButTensors w v) (ref : Nat) : v.desc ref = w.desc ref := by
  rw [h]
  rfl

theorem SameButTensors.setDesc (h : SameButTensors w v) (ref : Nat) (desc : TensorDesc) :
    SameButTensors (w.setDesc ref desc) (v.setDesc ref desc) := by
  unfold SameButTensors
  rw [h]
  rfl

/-- `SetShape` on a tensor of the user that has a description. -/
theorem setTensorShape_accepted {address : Nat} {t : NNTensor2_0} {desc : TensorDesc}
    {dims : List Int32} (ht : w.tensors[address]? = some t) (hdesc : t.tensorDesc = some desc)
    (hdims : ShapeAccepted dims) :
    ∃ w₁, setTensorShape w address dims = .ok (.success, w₁) ∧ SameButTensors w w₁ ∧
      w₁.tensors.length = w.tensors.length := by
  obtain ⟨desc', hset⟩ := setShape_accepted desc hdims
  unfold setTensorShape
  rw [ht]
  dsimp only
  rw [hdesc]
  dsimp only
  rw [hset]
  exact ⟨_, rfl, rfl, List.length_set⟩

theorem setTensorShape_notAccepted {address : Nat} {t : NNTensor2_0} {desc : TensorDesc}
    {dims : List Int32} (ht : w.tensors[address]? = some t) (hdesc : t.tensorDesc = some desc)
    (hdims : ¬ ShapeAccepted dims) :
    setTensorShape w address dims = .ok (.invalidParameter, w) := by
  unfold setTensorShape
  rw [ht]
  dsimp only
  rw [hdesc]
  dsimp only
  rw [setShape_notAccepted hdims]

theorem setTensorShape_undescribed {address : Nat} {t : NNTensor2_0} (dims : List Int32)
    (ht : w.tensors[address]? = some t) (hdesc : t.tensorDesc = none) :
    setTensorShape w address dims = .ok (.nullPtr, w) := by
  unfold setTensorShape
  rw [ht]
  dsimp only
  rw [hdesc]

/-- The first output has no description: `RunSync` stops here, and the other does not look. -/
theorem setDims_undescribed {address : Nat} {addresses : List Nat} {refs : DescRefs}
    {dims : List Int32} {outputsDims : List (List Int32)} {t : NNTensor2_0}
    {tensors : List NNTensor2_0} (ht : w.tensors[address]? = some t) (hdesc : t.tensorDesc = none) :
    Compared (KeepsUp w refs.length ((address :: addresses).map some) (dims :: outputsDims))
      ((settable (dims :: outputsDims)).length ≤ refs.length) tensors
      (setSyncDims w (address :: addresses) refs (dims :: outputsDims))
      (setAippDims v refs (dims :: outputsDims)) := by
  unfold setSyncDims
  rw [setTensorShape_undescribed dims ht hdesc]
  dsimp only
  refine .differs (fun hkeeps => ?_) ?_
  · have hhas := hkeeps.described 0 address rfl (Nat.zero_le _) (Nat.zero_le _)
    rw [Described, ht] at hhas
    have hhas : t.tensorDesc.isSome := hhas
    rw [hdesc] at hhas
    cases hhas
  · cases haipp : setAippDims v refs (dims :: outputsDims) with
    | error fault =>
      intro heq
      cases heq
    | ok answer =>
      obtain ⟨ret, v'⟩ := answer
      intro heq
      have hcode : ReturnCode.nullPtr = ret := Except.ok.inj heq
      subst hcode
      exact setAippDims_ne_nullPtr haipp

/-- The first dimensions are refused: both stop, and the other has looked for a description
of the executor's first. -/
theorem setDims_refused {address : Nat} {addresses : List Nat} {refs : DescRefs}
    {dims : List Int32} {outputsDims : List (List Int32)} {t : NNTensor2_0} {desc : TensorDesc}
    (hsame : SameButTensors w v) (ht : w.tensors[address]? = some t)
    (hdesc : t.tensorDesc = some desc) (hhas : Described w.tensors address)
    (hdims : ¬ ShapeAccepted dims) :
    Compared (KeepsUp w refs.length ((address :: addresses).map some) (dims :: outputsDims))
      ((settable (dims :: outputsDims)).length ≤ refs.length) v.tensors
      (setSyncDims w (address :: addresses) refs (dims :: outputsDims))
      (setAippDims v refs (dims :: outputsDims)) := by
  unfold setSyncDims
  rw [setTensorShape_notAccepted ht hdesc hdims]
  dsimp only
  unfold setAippDims
  cases refs with
  | nil =>
    refine .differs (fun hkeeps => hkeeps.counted ?_ ?_) (fun heq => by cases heq)
    · rw [settable_cons_refused hdims]
      exact Nat.succ_pos _
    · rw [settable_cons_refused hdims]
      rfl
  | cons ref refs =>
    dsimp only
    rw [setShape_notAccepted hdims]
    refine .ends ⟨fun i other hother hi _ => ?_, fun _ => ?_⟩ ?_ (by decide) hsame rfl
    · rw [settable_cons_refused hdims] at hi
      rw [Nat.le_zero.mp hi] at hother
      cases hother
      exact hhas
    · rw [settable_cons_refused hdims]
      exact Nat.succ_ne_zero _
    · rw [settable_cons_refused hdims]
      exact Nat.zero_le _

/-- **The two loops**, from worlds that differ in the tensors of the user only. -/
theorem setDims_compared {addresses : List Nat} {refs : DescRefs} {outputsDims : List (List Int32)}
    (hsame : SameButTensors w v) (hlength : outputsDims.length = addresses.length)
    (hvalid : ∀ address ∈ addresses, address < w.tensors.length) :
    Compared (KeepsUp w refs.length (addresses.map some) outputsDims)
      ((settable outputsDims).length ≤ refs.length) v.tensors
      (setSyncDims w addresses refs outputsDims) (setAippDims v refs outputsDims) := by
  induction addresses generalizing w v refs outputsDims with
  | nil =>
    rw [List.length_nil, List.length_eq_zero_iff] at hlength
    subst hlength
    have hkeeps : KeepsUp w refs.length (([] : List Nat).map some) [] :=
      ⟨fun _ _ hother => (by cases hother), fun hlt => absurd hlt (Nat.lt_irrefl 0)⟩
    unfold setAippDims
    exact .ends hkeeps (Nat.zero_le _) (by decide) hsame rfl
  | cons address addresses ih =>
    cases outputsDims with
    | nil => cases hlength
    | cons dims outputsDims =>
      rw [List.length_cons, List.length_cons, Nat.add_right_cancel_iff] at hlength
      rw [List.forall_mem_cons] at hvalid
      obtain ⟨hlt, hvalid⟩ := hvalid
      obtain ⟨t, ht⟩ : ∃ t, w.tensors[address]? = some t := ⟨_, List.getElem?_eq_getElem hlt⟩
      cases hdesc : t.tensorDesc with
      | none => exact setDims_undescribed ht hdesc
      | some desc =>
        have hhas : Described w.tensors address := by
          rw [Described, ht]
          show t.tensorDesc.isSome
          rw [hdesc]
          rfl
        by_cases hdims : ShapeAccepted dims
        · obtain ⟨w₁, hstep, hsame₁, hlength₁⟩ := setTensorShape_accepted ht hdesc hdims
          unfold setSyncDims
          rw [hstep]
          dsimp only
          unfold setAippDims
          cases refs with
          | nil =>
            -- Both go on, and find no description of the executor's.
            refine .faults _ ⟨fun i other hother _ hi => ?_, fun _ => ?_⟩ ?_
            · rw [Nat.le_zero.mp hi] at hother
              cases hother
              exact hhas
            · rw [settable_cons hdims]
              exact (Nat.succ_ne_zero _).symm
            · rw [settable_cons hdims]
              exact Nat.not_succ_le_zero _
          | cons ref refs =>
            obtain ⟨desc₁, hset⟩ := setShape_accepted (w.desc ref.1) hdims
            have hboth : v.desc ref.1 = w.desc ref.1 ∧ w₁.desc ref.1 = w.desc ref.1 :=
              ⟨hsame.desc ref.1, hsame₁.desc ref.1⟩
            dsimp only
            rw [hboth.1, hboth.2, hset]
            dsimp only
            have hdescribed : ∀ other,
                Described (w₁.setDesc ref.1 desc₁).tensors other ↔ Described w.tensors other := by
              intro other
              show Described w₁.tensors other ↔ Described w.tensors other
              exact described_setTensorShape hstep
            rw [List.map_cons, List.length_cons, keepsUp_cons_iff hdims hdescribed hhas,
              settable_cons hdims, List.length_cons, Nat.add_le_add_iff_right]
            refine ih (SameButTensors.setDesc ?_ ref.1 desc₁) hlength ?_
            · unfold SameButTensors at hsame hsame₁ ⊢
              rw [hsame, hsame₁]
            · intro other hother
              show other < w₁.tensors.length
              rw [hlength₁]
              exact hvalid other hother
        · exact setDims_refused hsame ht hdesc hhas hdims

/-- `RunSync` sets the dimensions before the first that are refused. -/
theorem setSyncDims_settable {addresses : List Nat} {refs : DescRefs}
    {outputsDims : List (List Int32)} (hret : ret ≠ .nullPtr)
    (h : setSyncDims w addresses refs outputsDims = .ok (ret, w')) :
    setSyncDims w addresses refs (settable outputsDims) = .ok (.success, w') := by
  induction addresses generalizing w refs outputsDims with
  | nil =>
    cases h
    rfl
  | cons address addresses ih =>
    cases outputsDims with
    | nil =>
      cases h
      rfl
    | cons dims outputsDims =>
      by_cases hdims : ShapeAccepted dims
      · rw [settable_cons hdims]
        unfold setSyncDims at h ⊢
        split at h
        · cases h
        · rename_i w₁ hshape
          cases refs with
          | nil => cases h
          | cons ref refs =>
            obtain ⟨desc, hset⟩ := setShape_accepted (w₁.desc ref.1) hdims
            dsimp only at h ⊢
            rw [hset] at h ⊢
            exact ih h
        · rename_i ret₁ w₁ hne hshape
          cases h
          -- The dimensions can be set, so the description is missing.
          unfold setTensorShape at hshape
          split at hshape
          · cases hshape
          split at hshape
          · cases hshape
            exact absurd rfl hret
          · rename_i desc _
            obtain ⟨desc', hset⟩ := setShape_accepted desc hdims
            rw [hset] at hshape
            cases hshape
            exact absurd rfl hne
      · rw [settable_cons_refused hdims]
        unfold setSyncDims at h
        split at h
        · cases h
        · rename_i hshape
          obtain ⟨t, desc, desc', -, -, hset, -⟩ := setTensorShape_success hshape
          rw [setShape_notAccepted hdims] at hset
          cases hset
        · rename_i hshape
          cases h
          unfold setTensorShape at hshape
          split at hshape
          · cases hshape
          split at hshape
          · cases hshape
            exact absurd rfl hret
          · rw [setShape_notAccepted hdims] at hshape
            cases hshape
            rfl

/-- What is reported for a tensor is reported for an output. -/
theorem lastReported_mem {address : Nat} {outputTensors : List (Option Nat)}
    {outputsDims : List (List Int32)} {dims : List Int32}
    (h : lastReported address outputTensors outputsDims = some dims) :
    some address ∈ outputTensors := by
  induction outputTensors generalizing outputsDims with
  | nil => cases h
  | cons output outputTensors ih =>
    cases outputsDims with
    | nil => cases h
    | cons first outputsDims =>
      unfold lastReported at h
      split at h
      · rename_i hrest
        cases h
        exact List.mem_cons_of_mem _ (ih hrest)
      · split at h
        · rename_i heq
          rw [heq]
          exact List.mem_cons_self
        · cases h

theorem setShape_shape {desc desc' : TensorDesc} {dims : List Int32}
    (h : desc.setShape dims = (.success, desc')) : desc'.shape = dims := by
  unfold TensorDesc.setShape at h
  split at h
  · cases h
  · cases h
    rfl

/-- After the loop of `RunSync` the outputs have the dimensions they had exactly if
those are the reported ones. -/
theorem userShapes_kept_iff {addresses : List Nat} {refs : DescRefs}
    {outputsDims : List (List Int32)} (hret : ret ≠ .nullPtr)
    (h : setSyncDims w addresses refs outputsDims = .ok (ret, w')) :
    (∀ address, some address ∈ addresses.map some → w'.userShape address = w.userShape address) ↔
      ∀ address dims, lastReported address (addresses.map some) (settable outputsDims) = some dims →
        w.userShape address = some dims := by
  have hset := setSyncDims_settable hret h
  have hlast : ∀ address dims,
      lastReported address (addresses.map some) (settable outputsDims) = some dims →
      w'.userShape address = some dims := by
    intro address dims hlast
    have hend := setSyncDims_tensors hset address
    rw [hlast] at hend
    obtain ⟨t, desc, desc', -, -, hshape, hend⟩ := hend
    unfold World.userShape
    rw [hend, ← setShape_shape hshape]
    rfl
  have hother : ∀ address,
      lastReported address (addresses.map some) (settable outputsDims) = none →
      w'.userShape address = w.userShape address := by
    intro address hnone
    have hend := setSyncDims_tensors hset address
    rw [hnone] at hend
    have hend : w'.tensors[address]? = w.tensors[address]? := hend
    unfold World.userShape
    rw [hend]
  constructor
  · intro hkept address dims hreported
    rw [← hkept address (lastReported_mem hreported)]
    exact hlast address dims hreported
  · intro hthere address _
    cases hreported : lastReported address (addresses.map some) (settable outputsDims) with
    | none => exact hother address hreported
    | some dims =>
      rw [hthere address dims hreported]
      exact hlast address dims hreported

end Loops

/-! ## The runs of the tensors -/

section Runs

variable {e : NNExecutor} {w v : World} {env : ExecutorEnv}
  {inputTensors outputTensors : List (Option Nat)}

theorem sameOutcome_refl (outcome : Outcome) : SameOutcome outputTensors outcome outcome := by
  cases outcome with
  | error fault => exact rfl
  | ok result => exact ⟨rfl, rfl, rfl, fun _ _ => rfl⟩

/-- Only the tensors of the user are looked at. -/
theorem unnoticed_tensors {count : Nat} {outputsDims : List (List Int32)}
    (h : v.tensors = w.tensors) (hw : Unnoticed w count outputTensors outputsDims) :
    Unnoticed v count outputTensors outputsDims := by
  refine ⟨⟨fun i address houtput hi hcount => ?_, hw.counted⟩, fun hcount address dims hlast => ?_⟩
  · rw [h]
    exact hw.described i address houtput hi hcount
  · unfold World.userShape
    rw [h]
    exact hw.shapes hcount address dims hlast

/-- The outcome of a loop over the reported dimensions. -/
def reportedBy (e : NNExecutor) (result : Except Fault (ReturnCode × World)) : Outcome :=
  result.map fun answer => (answer.1, e.posted answer.1, answer.2)

/-- **Both loops** leave the same. -/
theorem reportedBy_same_iff {addresses : List Nat} (houtputs : outputTensors = addresses.map some)
    (hlength : env.run.outputsDims.length = outputTensors.length)
    (hvalid : ∀ address, some address ∈ outputTensors → address < w.tensors.length) :
    SameOutcome outputTensors
        (e.reportedBy (setSyncDims w addresses e.outputTensorDescs env.run.outputsDims))
        (e.reportedBy (setAippDims w e.outputTensorDescs env.run.outputsDims)) ↔
      Unnoticed w e.outputTensorDescs.length outputTensors env.run.outputsDims := by
  subst houtputs
  rw [List.length_map] at hlength
  have hvalid' : ∀ address ∈ addresses, address < w.tensors.length :=
    fun address haddress => hvalid address (List.mem_map_of_mem haddress)
  have hcompared := @setDims_compared w w addresses e.outputTensorDescs env.run.outputsDims rfl
    hlength hvalid'
  generalize hsync : setSyncDims w addresses e.outputTensorDescs env.run.outputsDims = sync
    at hcompared ⊢
  generalize setAippDims w e.outputTensorDescs env.run.outputsDims = aipp at hcompared ⊢
  cases hcompared with
  | faults fault hkeeps hfew =>
    refine iff_of_true rfl ⟨hkeeps, fun henough => ?_⟩
    exact absurd henough hfew
  | ends hkeeps henough hret hsame htensors =>
    -- The loop of `RunAippModel` leaves the user's tensors alone.
    rename_i ret w₁ v₁
    have hshape : ∀ address, v₁.userShape address = w.userShape address := by
      intro address
      unfold World.userShape
      rw [htensors]
    have hkept := userShapes_kept_iff hret hsync
    constructor
    · rintro ⟨-, -, -, hshapes⟩
      refine ⟨hkeeps, fun _ => hkept.mp fun address haddress => ?_⟩
      exact (hshapes address haddress).trans (hshape address)
    · intro hunnoticed
      refine ⟨rfl, rfl, hsame, fun address haddress => ?_⟩
      rw [hshape]
      exact hkept.mpr (hunnoticed.shapes henough) address haddress
  | differs hnot hne =>
    refine iff_of_false (fun hsame => hne ?_) fun hunnoticed => hnot hunnoticed.toKeepsUp
    cases sync with
    | error fault =>
      cases aipp with
      | error fault' =>
        have heq : fault = fault' := hsame
        rw [heq]
      | ok answer => exact hsame.elim
    | ok answer =>
      cases aipp with
      | error fault => exact hsame.elim
      | ok answer' =>
        have heq : answer.1 = answer'.1 := hsame.1
        show Except.ok answer.1 = Except.ok answer'.1
        rw [heq]

/-- Without an answer to report, the loops do not matter. -/
theorem tensorsWith_unreported (setDims setDims' : SetDims)
    (h : ¬ (e.SyncReady w env inputTensors outputTensors ∧
      RunAnswers env.run outputTensors.length)) :
    e.tensorsWith setDims w env inputTensors outputTensors
      = e.tensorsWith setDims' w env inputTensors outputTensors := by
  unfold tensorsWith
  cases hcheck : e.checkInputDimRanges w env inputTensors with
  | error fault => rfl
  | ok ret =>
    dsimp only
    by_cases hrange : ret ≠ .operationForbidden ∧ ret ≠ .success
    · rw [if_pos hrange, if_pos hrange]
    rw [if_neg hrange, if_neg hrange]
    cases hin : inputTensors.mapM id with
    | none => rfl
    | some inputs =>
      cases hout : outputTensors.mapM id with
      | none => rfl
      | some outputs =>
        cases e.preparedModel with
        | none => rfl
        | some preparedModel =>
          dsimp only
          by_cases hcode : env.run.code ≠ .success
          · rw [if_pos hcode, if_pos hcode]
          rw [if_neg hcode, if_neg hcode]
          by_cases hlength : env.run.outputsDims.length ≠ outputTensors.length
          · rw [if_pos hlength, if_pos hlength]
          refine absurd ⟨⟨?_, ?_, ?_⟩, not_not.mp hcode, not_not.mp hlength⟩ h
          · rw [hcheck, Except.ok.injEq, Except.ok.injEq]
            by_contra hneither
            exact hrange (not_or.mp hneither)
          · exact none_not_mem_of_mapM_id hin
          · exact none_not_mem_of_mapM_id hout

/-- With an answer, the loop decides. -/
theorem tensorsWith_reported (hmodel : e.preparedModel.isSome)
    (hready : e.SyncReady w env inputTensors outputTensors)
    (hanswers : RunAnswers env.run outputTensors.length) :
    ∃ inputs outputs, outputTensors = outputs.map some ∧ ∀ setDims : SetDims,
      e.tensorsWith setDims w env inputTensors outputTensors
        = e.reportedBy (setDims (askDevice w inputs outputs) outputs e.outputTensorDescs
            env.run.outputsDims) := by
  obtain ⟨hcheck, hin, hout⟩ := hready
  obtain ⟨preparedModel, hsome⟩ := Option.isSome_iff_exists.mp hmodel
  cases hinputs : inputTensors.mapM id with
  | none => exact absurd (none_mem_of_mapM_id hinputs) hin
  | some inputs =>
    cases houtputs : outputTensors.mapM id with
    | none => exact absurd (none_mem_of_mapM_id houtputs) hout
    | some outputs =>
      refine ⟨inputs, outputs, mapM_id_eq_some houtputs, fun setDims => ?_⟩
      have hchecked : ∃ ret, e.checkInputDimRanges w env inputTensors = .ok ret ∧
          ¬ (ret ≠ .operationForbidden ∧ ret ≠ .success) := by
        rcases hcheck with hforbidden | hsuccess
        · exact ⟨_, hforbidden, fun hneither => hneither.1 rfl⟩
        · exact ⟨_, hsuccess, fun hneither => hneither.2 rfl⟩
      obtain ⟨ret, hret, hpassed⟩ := hchecked
      unfold tensorsWith reportedBy
      rw [hret]
      dsimp only
      rw [if_neg hpassed, hinputs, houtputs, hsome]
      dsimp only
      rw [if_neg (not_not.mpr hanswers.1), if_neg (not_not.mpr hanswers.2)]
      cases setDims (askDevice w inputs outputs) outputs e.outputTensorDescs
          env.run.outputsDims with
      | error fault => rfl
      | ok answer =>
        obtain ⟨ret, w'⟩ := answer
        cases ret with
        | success => rfl
        | _ => rfl

/-- **The runs of the tensors** leave the same, once the model is there. -/
theorem tensorsWith_same_iff (hmodel : e.preparedModel.isSome)
    (hvalid : ∀ address, some address ∈ outputTensors → address < w.tensors.length) :
    SameOutcome outputTensors (e.tensorsWith setSyncDims w env inputTensors outputTensors)
        (e.tensorsWith aippDims w env inputTensors outputTensors) ↔
      (e.SyncReady w env inputTensors outputTensors → RunAnswers env.run outputTensors.length →
        Unnoticed w e.outputTensorDescs.length outputTensors env.run.outputsDims) := by
  by_cases hboth : e.SyncReady w env inputTensors outputTensors ∧
      RunAnswers env.run outputTensors.length
  · obtain ⟨hready, hanswers⟩ := hboth
    obtain ⟨inputs, outputs, houtputs, hloop⟩ := tensorsWith_reported hmodel hready hanswers
    rw [hloop, hloop]
    unfold aippDims
    have hvalid' : ∀ address, some address ∈ outputTensors →
        address < (askDevice w inputs outputs).tensors.length := hvalid
    rw [reportedBy_same_iff houtputs hanswers.2 hvalid']
    constructor
    · exact fun hunnoticed _ _ => unnoticed_tensors (w := askDevice w inputs outputs) rfl hunnoticed
    · exact fun hall => unnoticed_tensors (w := w) rfl (hall hready hanswers)
  · rw [tensorsWith_unreported aippDims setSyncDims hboth]
    exact iff_of_true (sameOutcome_refl _) fun hready hanswers => absurd ⟨hready, hanswers⟩ hboth

end Runs

/-! ## Reloads -/

section Reload

variable {e e' : NNExecutor} {w w' : World} {env : ReloadEnv} {caches : List Buffer}

/-- A cache that is read and prepared leaves its descriptions. -/
theorem reloadCaches_success (h : e.reloadCaches w env caches = .ok (.success, e', w')) :
    cacheInputTensorDescOffset ≤ caches.length ∧ env.cache.prepare.1 = .success ∧
      e'.preparedModel = env.cache.prepare.2.1 ∧ e'.executorConfig = e.executorConfig ∧
      ∃ descs, restoredDescs caches = .ok descs ∧ descs.2.length = e'.outputTensorDescs.length := by
  generalize hret : ReturnCode.success = ret at h
  cases reloadCaches_reloaded h with
  | unread hne => exact absurd hret.symm hne
  | unprepared _ hprepare => exact absurd hret.symm hprepare
  | prepared hmany hdescs hprepare =>
    exact ⟨hmany, hprepare, rfl, rfl, _, hdescs, List.length_mapIdx.symm⟩

theorem reloadCaches_restored {descs : List (TensorDesc × UInt32) × List (TensorDesc × UInt32)}
    (hmany : cacheInputTensorDescOffset ≤ caches.length) (hdescs : restoredDescs caches = .ok descs)
    (hprepare : env.cache.prepare.1 = .success) :
    ∃ e' w', e.reloadCaches w env caches = .ok (.success, e', w') := by
  obtain ⟨hinputs, houtputs⟩ := restoredDescs_eq_ok_iff.mp hdescs
  unfold reloadCaches
  dsimp only
  rw [if_neg (Nat.not_lt.mpr hmany), hinputs]
  dsimp only
  rw [houtputs]
  dsimp only
  rw [if_neg (not_not.mpr hprepare)]
  exact ⟨_, _, rfl⟩

/-- **When a model is restored**, and for how many outputs. -/
theorem autoReload_restores_iff {count : Nat} (hnone : e.preparedModel = none) :
    e.Restores w env count ↔ ∃ e₁ w₁, e.autoReload w env = .ok (.success, e₁, w₁) ∧
      e₁.preparedModel.isSome ∧ e₁.outputTensorDescs.length = count := by
  constructor
  · rintro ⟨hpath, hversion, hconfig, hprepare, hmodel, reply, caches, mappings, descs, hbackend,
      hrestore, hmany, hdescs, rfl⟩
    have hreload := e.reload_eq hpath hversion hnone hbackend w
    rw [hrestore] at hreload
    dsimp only at hreload
    rw [if_neg (not_not.mpr rfl)] at hreload
    obtain ⟨e₁, w₁, hcaches⟩ := @reloadCaches_restored e
      { w with mappings := (NNCompiledCache.releaseCacheBuffer caches mappings).2 } env caches descs
      hmany hdescs hprepare
    obtain ⟨-, -, hmodel₁, hconfig₁, descs₁, hdescs₁, hcount⟩ := reloadCaches_success hcaches
    cases hdescs.symm.trans hdescs₁
    obtain ⟨config, hconfig⟩ := Option.isSome_iff_exists.mp hconfig
    refine ⟨e₁, w₁, ?_, ?_, hcount.symm⟩
    · unfold autoReload
      rw [hreload, hcaches]
      dsimp only
      rw [hconfig₁, hconfig]
    · rw [hmodel₁]
      exact hmodel
  · -- The device has been asked, for there was no other way to success.
    rintro ⟨e₁, w₁, hauto, hmodel, rfl⟩
    obtain ⟨hreload, hconfig⟩ := autoReload_success hauto
    rcases reload_asked hnone hreload with ⟨-, hne, -⟩ | ⟨hasks, hprepare, hmodel₁⟩
    · exact absurd rfl hne
    obtain ⟨hpath, hversion, reply, caches, mappings, descs, hbackend, hrestore, hdescs⟩ := hasks
    have heq := e.reload_eq hpath hversion hnone hbackend w
    rw [hreload, hrestore] at heq
    dsimp only at heq
    rw [if_neg (not_not.mpr rfl)] at heq
    obtain ⟨hmany, -, -, hconfig₁, descs₁, hdescs₁, hcount⟩ := reloadCaches_success heq.symm
    rw [hmodel₁] at hmodel
    rw [hconfig₁] at hconfig
    exact ⟨hpath, hversion, hconfig, hprepare.symm, hmodel, reply, caches, mappings, descs₁,
      hbackend, hrestore, hmany, hdescs₁, hcount⟩

end Reload

/-! ## The two entry points -/

section EntryPoints

variable {e : NNExecutor} {w : World} {env : ExecutorEnv} {reloadEnv : ReloadEnv}
  {inputTensors outputTensors : List (Option Nat)}

/-- **Where a loaded model runs the tensors**, the entry points leave the same under
the condition on the dimensions it reports. -/
theorem loaded_same_iff {w₁ : World} (hmodel : e.preparedModel.isSome)
    (htensors : w₁.tensors = w.tensors)
    (hvalid : ∀ address, some address ∈ outputTensors → address < w.tensors.length) :
    SameOutcome outputTensors (e.tensorsWith setSyncDims w₁ env inputTensors outputTensors)
        (e.tensorsWith aippDims w₁ env inputTensors outputTensors) ↔
      (DeviceAnswers w env inputTensors outputTensors →
        Unnoticed w e.outputTensorDescs.length outputTensors env.run.outputsDims) := by
  have hvalid₁ : ∀ address, some address ∈ outputTensors → address < w₁.tensors.length := by
    rw [htensors]
    exact hvalid
  have hranges : InRanges w₁ env inputTensors ↔ InRanges w env inputTensors := by
    unfold InRanges
    rw [checkInputsLoop_tensors htensors]
  rw [tensorsWith_same_iff hmodel hvalid₁, syncReady_iff hmodel, hranges]
  constructor
  · rintro hall ⟨hin, hinputs, houtputs, hanswers⟩
    exact unnoticed_tensors htensors.symm (hall ⟨hin, hinputs, houtputs⟩ hanswers)
  · rintro hall ⟨hin, hinputs, houtputs⟩ hanswers
    exact unnoticed_tensors htensors (hall ⟨hin, hinputs, houtputs, hanswers⟩)

/-- The task is none of what a reload looks at. -/
theorem restores_handler {count : Nat} (handler : Option Nat) :
    ({ e with autoUnloadHandler := handler } : NNExecutor).Restores w reloadEnv count ↔
      e.Restores w reloadEnv count := by
  constructor
  · rintro ⟨hpath, hversion, hconfig, hprepare, hmodel, hdescs⟩
    exact ⟨hpath, hversion, hconfig, hprepare, hmodel, hdescs⟩
  · rintro ⟨hpath, hversion, hconfig, hprepare, hmodel, hdescs⟩
    exact ⟨hpath, hversion, hconfig, hprepare, hmodel, hdescs⟩

theorem reloadAndRun_failed {runTensors : NNExecutor → World → Outcome} {e₁ : NNExecutor}
    {w₁ : World} {ret : ReturnCode} (hret : ret ≠ .success)
    (h : e.autoReload w reloadEnv = .ok (ret, e₁, w₁)) :
    reloadAndRun runTensors e w reloadEnv = .ok (ret, e₁, w₁) := by
  unfold reloadAndRun
  rw [h]
  cases ret with
  | success => exact absurd rfl hret
  | _ => rfl

/-- **Where the model has to be restored first.** -/
theorem reloadAndRun_same_iff (haipp : env.setAippString = .success)
    (hnone : e.preparedModel = none)
    (hvalid : ∀ address, some address ∈ outputTensors → address < w.tensors.length) :
    SameOutcome outputTensors
        (reloadAndRun (fun e w => e.runSyncTensors w env inputTensors outputTensors) e w reloadEnv)
        (reloadAndRun (fun e w => e.runAippTensors w env inputTensors outputTensors) e w
          reloadEnv) ↔
      ∀ count, e.Restores w reloadEnv count → DeviceAnswers w env inputTensors outputTensors →
        Unnoticed w count outputTensors env.run.outputsDims := by
  have hrestores : ∀ count, _ := fun count => @autoReload_restores_iff e w reloadEnv count hnone
  cases hauto : e.autoReload w reloadEnv with
  | error fault =>
    unfold reloadAndRun
    rw [hauto]
    refine iff_of_true rfl fun count hrestored => ?_
    obtain ⟨e₁, w₁, hok, -⟩ := (hrestores count).mp hrestored
    cases hauto.symm.trans hok
  | ok answer =>
    obtain ⟨ret, e₁, w₁⟩ := answer
    by_cases hret : ret = .success
    · subst hret
      unfold reloadAndRun
      rw [hauto]
      dsimp only
      rw [runSyncTensors_eq, runAippTensors_eq _ _ _ _ _ haipp]
      have htensors : w₁.tensors = w.tensors := reload_tensors (autoReload_success hauto).1
      cases hmodel : e₁.preparedModel with
      | none =>
        -- The device has prepared nothing, and both runs dereference it.
        unfold tensorsWith
        rw [checkInputDimRanges_unloaded hmodel]
        refine iff_of_true rfl fun count hrestored => ?_
        obtain ⟨e₂, w₂, hok, hsome, -⟩ := (hrestores count).mp hrestored
        cases hauto.symm.trans hok
        rw [hmodel] at hsome
        cases hsome
      | some preparedModel =>
        have hsome : e₁.preparedModel.isSome := by
          rw [hmodel]
          rfl
        rw [loaded_same_iff hsome htensors hvalid]
        constructor
        · intro hall count hrestored
          obtain ⟨e₂, w₂, hok, -, rfl⟩ := (hrestores count).mp hrestored
          cases hauto.symm.trans hok
          exact hall
        · exact fun hall => hall _ ((hrestores _).mpr ⟨e₁, w₁, hauto, hsome, rfl⟩)
    · rw [reloadAndRun_failed hret hauto, reloadAndRun_failed hret hauto]
      refine iff_of_true (sameOutcome_refl _) fun count hrestored => ?_
      obtain ⟨e₂, w₂, hok, -⟩ := (hrestores count).mp hrestored
      cases hauto.symm.trans hok
      exact absurd rfl hret

/-- **`RunSync` and `RunSyncWithAipp` leave the same** exactly if, whenever the device
answers, `RunSync` finds a description in every tensor it comes to and the reported
dimensions in it. -/
theorem runs_agree_iff (haipp : env.setAippString = .success)
    (hvalid : ∀ address, some address ∈ outputTensors → address < w.tensors.length) :
    SameOutcome outputTensors (e.runSync w env reloadEnv inputTensors outputTensors)
        (e.runSyncWithAipp w env reloadEnv inputTensors outputTensors) ↔
      ∀ count, e.Answered w env reloadEnv inputTensors outputTensors count →
        Unnoticed w count outputTensors env.run.outputsDims := by
  rw [runSync_eq, runSyncWithAipp_eq]
  unfold syncWith
  cases hhandler : e.autoUnloadHandler with
  | none =>
    refine iff_of_true rfl fun count hanswered => ?_
    have hsome := hanswered.handler
    rw [hhandler] at hsome
    cases hsome
  | some tasks =>
    have hsome : e.autoUnloadHandler.isSome := by
      rw [hhandler]
      rfl
    dsimp only
    by_cases hin : e.inputTensorDescs.length = inputTensors.length
    · rw [if_neg (not_not.mpr hin), if_neg (not_not.mpr hin)]
      by_cases hout : e.outputTensorDescs.length = outputTensors.length
      · rw [if_neg (not_not.mpr hout), if_neg (not_not.mpr hout)]
        by_cases hmodel : e.preparedModel.isSome
        · -- The handler changes nothing of what is compared.
          have hloaded :
              ({ e with autoUnloadHandler := some 0 } : NNExecutor).preparedModel.isSome := hmodel
          rw [if_pos hmodel, if_pos hmodel, runSyncTensors_eq, runAippTensors_eq _ _ _ _ _ haipp,
            loaded_same_iff hloaded rfl hvalid]
          constructor
          · rintro hall count ⟨hanswers, -, -, -, ⟨-, rfl⟩ | ⟨hnone, -⟩⟩
            · have hunnoticed := hall hanswers
              rwa [hout] at hunnoticed
            · rw [hnone] at hmodel
              cases hmodel
          · intro hall hanswers
            show Unnoticed w e.outputTensorDescs.length outputTensors env.run.outputsDims
            rw [hout]
            exact hall _ ⟨hanswers, hsome, hin, hout, Or.inl ⟨hmodel, rfl⟩⟩
        · have hnone : e.preparedModel = none := Option.not_isSome_iff_eq_none.mp hmodel
          have hdropped : ({ e with autoUnloadHandler := some 0 } : NNExecutor).preparedModel
            = none := hnone
          rw [if_neg hmodel, if_neg hmodel, reloadAndRun_same_iff haipp hdropped hvalid]
          constructor
          · rintro hall count ⟨hanswers, -, -, -, ⟨hloaded, -⟩ | ⟨-, hrestored⟩⟩
            · exact absurd hloaded hmodel
            · exact hall count ((restores_handler (some 0)).mpr hrestored) hanswers
          · intro hall count hrestored hanswers
            have hrestored := (restores_handler (some 0)).mp hrestored
            exact hall count ⟨hanswers, hsome, hin, hout, Or.inr ⟨hnone, hrestored⟩⟩
      · rw [if_pos hout, if_pos hout]
        refine iff_of_true (sameOutcome_refl _) fun count hanswered => ?_
        exact absurd hanswered.outputCount hout
    · rw [if_pos hin, if_pos hin]
      refine iff_of_true (sameOutcome_refl _) fun count hanswered => ?_
      exact absurd hanswered.inputCount hin

/-- The output has the dimensions that are reported. -/
theorem runs_agree_iff_small :
    SameOutcome [some 1] (smallExecutor.runSync twoTensors (reports [2]) noReload [some 0] [some 1])
        (smallExecutor.runSyncWithAipp twoTensors (reports [2]) noReload [some 0] [some 1]) ↔
      ∀ count, smallExecutor.Answered twoTensors (reports [2]) noReload [some 0] [some 1] count →
        Unnoticed twoTensors count [some 1] (reports [2]).run.outputsDims := by
  refine runs_agree_iff rfl fun address haddress => ?_
  cases List.mem_singleton.mp haddress
  decide

/-- **A dynamic output**: both runs succeed, and only `RunSync` tells the user of the
hundred floats. -/
theorem runs_disagree : ∃ e₁ w₁ e₂ w₂,
    smallExecutor.runSync twoTensors (reports [100]) noReload [some 0] [some 1]
      = .ok (.success, e₁, w₁) ∧
    smallExecutor.runSyncWithAipp twoTensors (reports [100]) noReload [some 0] [some 1]
      = .ok (.success, e₂, w₂) ∧
    w₁.userShape 1 = some [100] ∧ w₂.userShape 1 = some [2] ∧
    ¬ SameOutcome [some 1]
        (smallExecutor.runSync twoTensors (reports [100]) noReload [some 0] [some 1])
        (smallExecutor.runSyncWithAipp twoTensors (reports [100]) noReload [some 0] [some 1]) := by
  refine ⟨_, _, _, _, rfl, rfl, rfl, rfl, ?_⟩
  rintro ⟨-, -, -, hshapes⟩
  exact absurd (hshapes 1 List.mem_cons_self) (by decide)

end EntryPoints

end NNExecutor

end NNRt
