import NNRt.Compiler.NullSafety
import NNRt.Executor.Effects

/-!
# What is done with the prepared model

Setting an input, a run and the ranges of an input go through the prepared model. With
it they dereference at most the tensor of an entry, or read beyond an end; without it
they dereference a null pointer.

- `setInput_avoids` / `setInputFromMemory_avoids`: what setting an input can do wrong.
- `runSyncTensors_avoids`: what a synchronous run can.
- `NeedsModel`: a run that keeps the model, and cannot do without it.
-/

namespace NNRt

namespace NNExecutor

/-! ## Inputs -/

section Inputs

variable {e : NNExecutor} {bad : Fault → Prop}

/-- The range of an input is found out without a tensor of the executor. -/
theorem checkInputDimRange_ok (hmodel : e.preparedModel.isSome) (env : ExecutorEnv) (index : Nat)
    (nnTensor : OHNNTensor) : ∃ nnRet, e.checkInputDimRange env index nnTensor = .ok nnRet := by
  obtain ⟨preparedModel, hsome⟩ := Option.isSome_iff_exists.mp hmodel
  unfold checkInputDimRange
  rw [hsome]
  dsimp only
  split
  · exact ⟨_, rfl⟩
  split
  · split
    · exact ⟨_, rfl⟩
    split
    · exact ⟨_, rfl⟩
    · exact ⟨_, rfl⟩
  · exact ⟨_, rfl⟩

theorem setInputTensorWithNewBuffer_avoids (hbad : ¬ bad (.nullDeref .tensor)) (w : World)
    (index : Nat) (inputTensor : NNTensor Address) (inputBuffer : Address) (length : Nat)
    (isInnerMem : Bool) :
    Avoids bad
      (e.setInputTensorWithNewBuffer w index inputTensor inputBuffer length isInnerMem) := by
  unfold setInputTensorWithNewBuffer
  dsimp only
  split
  · exact avoids_ok _
  split
  · exact avoids_error.mpr hbad
  · exact avoids_ok _

theorem storeInput_avoids (hbad : ¬ bad (.nullDeref .tensor)) (w : World) (env : ExecutorEnv)
    (index : Nat) (inputTensor : NNTensor Address) (buffer : Option Bytes) (length : Nat) :
    Avoids bad (e.storeInput w env index inputTensor buffer length) := by
  unfold storeInput
  dsimp only
  split
  · unfold setInputTensorWithCurrentBuffer
    dsimp only
    split
    · exact avoids_error.mpr hbad
    split
    · exact avoids_ok _
    · exact avoids_ok _
  split
  · exact avoids_ok _
  split
  · exact avoids_ok _
  · exact setInputTensorWithNewBuffer_avoids hbad _ _ _ _ _ _

theorem setInput_avoids (hbad : ¬ bad (.nullDeref .tensor)) (he : e.preparedModel.isSome)
    (w : World) (env : ExecutorEnv) (index : Nat) (nnTensor : OHNNTensor) (buffer : Option Bytes)
    (length : Nat) : Avoids bad (e.setInput w env index nnTensor buffer length) := by
  obtain ⟨nnRet, hcheck⟩ := checkInputDimRange_ok he env index nnTensor
  unfold setInput
  rw [hcheck]
  dsimp only
  split
  · exact avoids_ok _
  split
  · exact avoids_ok _
  split
  · split
    · exact avoids_ok _
    · exact storeInput_avoids hbad _ _ _ _ _ _
  · exact avoids_ok _

theorem setInputFromMemory_avoids (hbad : ¬ bad (.nullDeref .tensor)) (he : e.preparedModel.isSome)
    (w : World) (env : ExecutorEnv) (index : Nat) (nnTensor : OHNNTensor) (memory : OHNNMemory) :
    Avoids bad (e.setInputFromMemory w env index nnTensor memory) := by
  obtain ⟨nnRet, hcheck⟩ := checkInputDimRange_ok he env index nnTensor
  unfold setInputFromMemory
  rw [hcheck]
  dsimp only
  split
  · exact avoids_ok _
  split
  · exact avoids_ok _
  split
  · split
    · exact avoids_ok _
    · exact setInputTensorWithNewBuffer_avoids hbad _ _ _ _ _ _
  · exact avoids_ok _

/-- Without a prepared model, setting an input dereferences it. -/
theorem checkInputDimRange_unloaded (he : e.preparedModel = none) (env : ExecutorEnv)
    (index : Nat) (nnTensor : OHNNTensor) :
    e.checkInputDimRange env index nnTensor = .error (.nullDeref .preparedModel) := by
  rw [checkInputDimRange, he]

/-- The ranges of an input are found out, too. -/
theorem getInputDimRange_ok (he : e.preparedModel.isSome) (env : ExecutorEnv) (inputIndex : Nat)
    (args : DimRangeArgs) : ∃ result, e.getInputDimRange env inputIndex args = .ok result := by
  obtain ⟨preparedModel, hsome⟩ := Option.isSome_iff_exists.mp he
  have hvec : ∃ result, e.getInputDimVec env = .ok result := by
    unfold getInputDimVec
    rw [hsome]
    dsimp only
    split
    · exact ⟨_, rfl⟩
    split
    · exact ⟨_, rfl⟩
    · exact ⟨_, rfl⟩
  obtain ⟨⟨ret, e'⟩, hvec⟩ := hvec
  unfold getInputDimRange
  split
  · exact ⟨_, rfl⟩
  split
  · exact ⟨_, rfl⟩
  split
  · exact ⟨_, rfl⟩
  split
  · rw [hvec]
    cases ret with
    | success => exact ⟨_, rfl⟩
    | _ => exact ⟨_, rfl⟩
  · exact ⟨_, rfl⟩

end Inputs

/-! ## `RunSync` and `RunSyncWithAipp` with a prepared model -/

section Sync

variable {e : NNExecutor} {bad : Fault → Prop}

/-- All they can do wrong is to read beyond an end. -/
theorem dimsWithin_avoids (hbad : ¬ bad .outOfBounds) (dims : List Int32)
    (mins maxs : List UInt32) :
    Avoids bad (dimsWithin dims mins maxs) := by
  induction dims generalizing mins maxs with
  | nil => exact avoids_ok _
  | cons dim dims ih =>
    unfold dimsWithin
    split
    · exact avoids_ok _
    split
    · split
      · exact avoids_ok _
      · exact ih _ _
    · exact avoids_error.mpr hbad

theorem checkInputsLoop_avoids (hbad : ¬ bad .outOfBounds) (w : World) (inputs : List (Option Nat))
    (minDims maxDims : List (List UInt32)) :
    Avoids bad (checkInputsLoop w inputs minDims maxDims) := by
  induction inputs generalizing minDims maxDims with
  | nil => exact avoids_ok _
  | cons input inputs ih =>
    unfold checkInputsLoop
    split
    · rename_i mins _ maxs _ heq
      cases heq
      split
      · exact avoids_ok _
      split
      · exact avoids_error.mpr hbad
      rename_i t _
      have ht : Avoids bad (checkDimRanges t mins maxs) := by
        unfold checkDimRanges
        split
        · exact avoids_ok _
        · exact dimsWithin_avoids hbad _ _ _
      split
      · rename_i fault hfault
        exact avoids_error.mpr (ht fault hfault)
      · exact ih _ _
      · exact avoids_ok _
    · exact avoids_ok _

theorem checkInputDimRanges_avoids (hbad : ¬ bad .outOfBounds) (he : e.preparedModel.isSome)
    (w : World) (env : ExecutorEnv)
    (inputTensors : List (Option Nat)) :
    Avoids bad (e.checkInputDimRanges w env inputTensors) := by
  obtain ⟨model, hmodel⟩ := Option.isSome_iff_exists.mp he
  unfold checkInputDimRanges
  rw [hmodel]
  dsimp only
  split
  · exact avoids_ok _
  split
  · exact avoids_ok _
  split
  · exact avoids_ok _
  · exact checkInputsLoop_avoids hbad _ _ _ _

theorem setTensorShape_avoids (hbad : ¬ bad .outOfBounds) (w : World) (address : Nat)
    (dims : List Int32) :
    Avoids bad (setTensorShape w address dims) := by
  unfold setTensorShape
  split
  · exact avoids_error.mpr hbad
  split
  · exact avoids_ok _
  split
  · exact avoids_ok _
  · exact avoids_ok _

theorem setSyncDims_avoids (hbad : ¬ bad .outOfBounds) (w : World) (addresses : List Nat) (refs : DescRefs)
    (outputsDims : List (List Int32)) :
    Avoids bad (setSyncDims w addresses refs outputsDims) := by
  induction addresses generalizing w refs outputsDims with
  | nil => exact avoids_ok _
  | cons address addresses ih =>
    cases outputsDims with
    | nil => exact avoids_ok _
    | cons dims outputsDims =>
      have htensor := setTensorShape_avoids hbad w address dims
      unfold setSyncDims
      split
      · rename_i fault hfault
        exact avoids_error.mpr (htensor fault hfault)
      · split
        · exact avoids_error.mpr hbad
        split
        · exact ih _ _ _
        · exact avoids_ok _
      · exact avoids_ok _

theorem runSyncTensors_avoids (hbad : ¬ bad .outOfBounds) (he : e.preparedModel.isSome) (w : World)
    (env : ExecutorEnv)
    (inputTensors outputTensors : List (Option Nat)) :
    Avoids bad (e.runSyncTensors w env inputTensors outputTensors) := by
  have hcheck := checkInputDimRanges_avoids hbad he w env inputTensors
  obtain ⟨model, hmodel⟩ := Option.isSome_iff_exists.mp he
  unfold runSyncTensors
  cases hranges : e.checkInputDimRanges w env inputTensors with
  | error fault => exact avoids_error.mpr (hcheck fault hranges)
  | ok ret =>
    rw [hmodel]
    dsimp only
    split
    · exact avoids_ok _
    split
    · rename_i inputs outputs _ _
      split
      · exact avoids_ok _
      split
      · exact avoids_ok _
      have hdims := setSyncDims_avoids hbad { w with runs := w.runs ++ [.tensors inputs outputs] }
        outputs e.outputTensorDescs env.run.outputsDims
      split
      · rename_i fault hfault
        exact avoids_error.mpr (hdims fault hfault)
      · exact avoids_ok _
      · exact avoids_ok _
    · exact avoids_ok _

/-- Running tensors does not take the prepared model away. -/
theorem runSyncTensors_preparedModel {w w' : World} {env : ExecutorEnv}
    {inputTensors outputTensors : List (Option Nat)} {ret : ReturnCode} {e' : NNExecutor}
    (h : e.runSyncTensors w env inputTensors outputTensors = .ok (ret, e', w')) :
    e'.preparedModel = e.preparedModel := by
  unfold runSyncTensors at h
  split at h
  · cases h
  split at h
  · cases h
    rfl
  split at h
  · split at h
    · cases h
    rename_i hmodel
    dsimp only at h
    split at h
    · cases h
      rfl
    split at h
    · cases h
      rfl
    split at h
    · cases h
    · cases h
      rfl
    · cases h
      rfl
  · cases h
    rfl

theorem runAippModel_executor {w w' : World} {env : ExecutorEnv}
    {inputTensors outputTensors : List (Option Nat)} {ret : ReturnCode} {e' : NNExecutor}
    (h : e.runAippModel w env inputTensors outputTensors = .ok (ret, e', w')) : e' = e := by
  unfold runAippModel at h
  split at h
  · split at h
    · cases h
    split at h
    · cases h
      rfl
    dsimp only at h
    split at h
    · cases h
      rfl
    split at h
    · cases h
      rfl
    split at h
    · cases h
    · cases h
      rfl
  · cases h
    rfl

theorem runAippTensors_preparedModel {w w' : World} {env : ExecutorEnv}
    {inputTensors outputTensors : List (Option Nat)} {ret : ReturnCode} {e' : NNExecutor}
    (h : e.runAippTensors w env inputTensors outputTensors = .ok (ret, e', w')) :
    e'.preparedModel = e.preparedModel := by
  unfold runAippTensors at h
  split at h
  · cases h
  split at h
  · cases h
    rfl
  split at h
  · cases h
  · rename_i hrun
    cases h
    rw [runAippModel_executor hrun]
    rfl
  · rename_i hrun
    cases h
    rw [runAippModel_executor hrun]

theorem checkInputDimRanges_unloaded (he : e.preparedModel = none) (w : World) (env : ExecutorEnv)
    (inputTensors : List (Option Nat)) :
    e.checkInputDimRanges w env inputTensors = .error (.nullDeref .preparedModel) := by
  rw [checkInputDimRanges, he]

end Sync

/-! ## The model -/

/-- What the way of running the tensors has to do with the prepared model. -/
structure NeedsModel (runTensors : NNExecutor → World → Outcome) : Prop where
  keeps : ∀ e w ret e' w', runTensors e w = .ok (ret, e', w') →
    e'.preparedModel = e.preparedModel
  unloaded : ∀ e w, e.preparedModel = none →
    runTensors e w = .error (.nullDeref .preparedModel)

theorem needsModel_runSyncTensors (env : ExecutorEnv)
    (inputTensors outputTensors : List (Option Nat)) :
    NeedsModel fun e w => e.runSyncTensors w env inputTensors outputTensors where
  keeps _ _ _ _ _ h := runSyncTensors_preparedModel h
  unloaded _ w he := by
    rw [runSyncTensors, checkInputDimRanges_unloaded he w env inputTensors]

theorem needsModel_runAippTensors (env : ExecutorEnv)
    (inputTensors outputTensors : List (Option Nat)) :
    NeedsModel fun e w => e.runAippTensors w env inputTensors outputTensors where
  keeps _ _ _ _ _ h := runAippTensors_preparedModel h
  unloaded _ w he := by
    rw [runAippTensors, checkInputDimRanges_unloaded he w env inputTensors]

end NNExecutor

end NNRt
