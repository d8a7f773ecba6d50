import NNRt.Executor.Effects

/-!
# `RunSync` and `RunSyncWithAipp` as one run

The two entry points split the same protocol differently over their helpers. Once
the AIPP string is set, they differ in one loop: `RunSync` writes the reported
dimensions to the tensors of the user as well.

- `tensorsWith`: the run, with that loop as a parameter.
- `runSyncTensors_eq` / `runAippTensors_eq`: both entry points are it.
- `tensorsWith_ran`: **the ways such a run ends**, with what is true before each.
-/

namespace NNRt

namespace NNExecutor

/-- A loop over the reported dimensions, given the addresses of the outputs. -/
abbrev SetDims :=
  World → List Nat → DescRefs → List (List Int32) → Except Fault (ReturnCode × World)

/-- The loop of `RunAippModel` does not look at the outputs. -/
def aippDims : SetDims :=
  fun w _ refs outputsDims => setAippDims w refs outputsDims

/-- The device is asked. -/
def askDevice (w : World) (inputs outputs : List Nat) : World :=
  { w with runs := w.runs ++ [.tensors inputs outputs] }

/-- A synchronous run once the prepared model is there. -/
def tensorsWith (setDims : SetDims) (e : NNExecutor) (w : World) (env : ExecutorEnv)
    (inputTensors outputTensors : List (Option Nat)) : Outcome :=
  match e.checkInputDimRanges w env inputTensors with
  | .error fault => .error fault
  | .ok ret =>
    if ret ≠ .operationForbidden ∧ ret ≠ .success then .ok (ret, e, w)
    else
      match inputTensors.mapM id, outputTensors.mapM id with
      | some inputs, some outputs =>
        match e.preparedModel with
        | none => .error (.nullDeref .preparedModel)
        | some _ =>
          if env.run.code ≠ .success then .ok (env.run.code, e, askDevice w inputs outputs)
          else if env.run.outputsDims.length ≠ outputTensors.length then
            .ok (.invalidParameter, e, askDevice w inputs outputs)
          else
            match setDims (askDevice w inputs outputs) outputs e.outputTensorDescs
                env.run.outputsDims with
            | .error fault => .error fault
            | .ok (.success, w) => .ok (.success, e.postAutoUnload, w)
            | .ok (ret, w) => .ok (ret, e, w)
      | _, _ => .ok (.invalidParameter, e, w)

section Equations

variable (e : NNExecutor) (w : World) (env : ExecutorEnv)
  (inputTensors outputTensors : List (Option Nat))

theorem runSyncTensors_eq : e.runSyncTensors w env inputTensors outputTensors
    = e.tensorsWith setSyncDims w env inputTensors outputTensors := rfl

/-- With the string set, `RunSyncWithAipp` is `RunSync` without the user's tensors. -/
theorem runAippTensors_eq (hset : env.setAippString = .success) :
    e.runAippTensors w env inputTensors outputTensors
      = e.tensorsWith aippDims w env inputTensors outputTensors := by
  unfold runAippTensors tensorsWith runAippModel
  cases e.checkInputDimRanges w env inputTensors with
  | error fault => rfl
  | ok ret =>
    dsimp only
    split
    · rfl
    cases inputTensors.mapM id with
    | none => rfl
    | some inputs =>
      cases outputTensors.mapM id with
      | none => rfl
      | some outputs =>
        cases e.preparedModel with
        | none => rfl
        | some preparedModel =>
          dsimp only
          rw [if_neg (not_not.mpr hset)]
          by_cases hcode : env.run.code ≠ .success
          · rw [if_pos hcode, if_pos hcode]
            -- The code of the device is not changed on its way out.
            split
            · rename_i heq
              cases heq
            · rename_i heq
              exact absurd heq (ok_code_ne hcode)
            · rename_i heq
              exact heq.symm
          rw [if_neg hcode, if_neg hcode]
          by_cases hlength : env.run.outputsDims.length ≠ outputTensors.length
          · rw [if_pos hlength, if_pos hlength]
            rfl
          rw [if_neg hlength, if_neg hlength]
          unfold aippDims askDevice
          cases setAippDims { w with runs := w.runs ++ [.tensors inputs outputs] }
              e.outputTensorDescs env.run.outputsDims with
          | error fault => rfl
          | ok answer =>
            obtain ⟨ret, w'⟩ := answer
            cases ret with
            | success => rfl
            | _ => rfl

/-- Without the string `RunSyncWithAipp` does not ask the device. -/
theorem runAippTensors_unset {e e' : NNExecutor} {w w' : World} {ret : ReturnCode}
    (hset : env.setAippString ≠ .success)
    (h : e.runAippTensors w env inputTensors outputTensors = .ok (ret, e', w')) :
    ret ≠ .success ∧ e' = e ∧ w' = w := by
  have hmodel : ∀ ret₁ e₁ w₁, e.runAippModel w env inputTensors outputTensors = .ok (ret₁, e₁, w₁) →
      ret₁ ≠ .success ∧ e₁ = e ∧ w₁ = w := by
    intro ret₁ e₁ w₁ hrun
    unfold runAippModel at hrun
    split at hrun
    · split at hrun
      · cases hrun
      rw [if_pos hset] at hrun
      cases hrun
      exact ⟨hset, rfl, rfl⟩
    · cases hrun
      exact ⟨by decide, rfl, rfl⟩
  unfold runAippTensors at h
  split at h
  · cases h
  split at h
  · rename_i hrange
    cases h
    exact ⟨hrange.2, rfl, rfl⟩
  split at h
  · cases h
  · rename_i hrun
    exact absurd rfl (hmodel _ _ _ hrun).1
  · rename_i hrun
    cases h
    exact hmodel _ _ _ hrun

end Equations

/-! ## The ways such a run ends -/

/-- The device may be asked: the shapes of the inputs are in range, or not asked
for, and no tensor is missing. -/
def SyncReady (e : NNExecutor) (w : World) (env : ExecutorEnv)
    (inputTensors outputTensors : List (Option Nat)) : Prop :=
  (e.checkInputDimRanges w env inputTensors = .ok .operationForbidden ∨
    e.checkInputDimRanges w env inputTensors = .ok .success) ∧
  none ∉ inputTensors ∧ none ∉ outputTensors

/-- One more unload task after a success. -/
def posted (e : NNExecutor) (ret : ReturnCode) : NNExecutor :=
  if ret = .success then e.postAutoUnload else e

/-- How a synchronous run ends that has the prepared model. -/
inductive TensorsRan (setDims : SetDims) (e : NNExecutor) (w : World) (env : ExecutorEnv)
    (inputTensors outputTensors : List (Option Nat)) : ReturnCode → NNExecutor → World → Prop
  /-- The device is not asked. -/
  | refused {ret : ReturnCode} (hready : ¬ e.SyncReady w env inputTensors outputTensors)
    (hret : ret ≠ .success) :
    TensorsRan setDims e w env inputTensors outputTensors ret e w
  /-- The device returns an error, or the wrong number of dimensions. -/
  | failed {inputs outputs : List Nat} {ret : ReturnCode}
    (hready : e.SyncReady w env inputTensors outputTensors)
    (hanswers : ¬ RunAnswers env.run outputTensors.length) (hret : ret ≠ .success) :
    TensorsRan setDims e w env inputTensors outputTensors ret e (askDevice w inputs outputs)
  /-- The reported dimensions are set, up to the first that are refused. -/
  | reported {inputs outputs : List Nat} {ret : ReturnCode} {w' : World}
    (hready : e.SyncReady w env inputTensors outputTensors)
    (hanswers : RunAnswers env.run outputTensors.length)
    (houtputs : outputTensors = outputs.map some)
    (hdims : setDims (askDevice w inputs outputs) outputs e.outputTensorDescs env.run.outputsDims
      = .ok (ret, w')) :
    TensorsRan setDims e w env inputTensors outputTensors ret (e.posted ret) w'

theorem none_not_mem_of_mapM_id {xs : List (Option Nat)} {addresses : List Nat}
    (h : xs.mapM id = some addresses) : none ∉ xs := by
  rw [mapM_id_eq_some h]
  intro hmem
  obtain ⟨address, -, heq⟩ := List.mem_map.mp hmem
  cases heq

theorem none_mem_of_mapM_id {xs : List (Option Nat)} (h : xs.mapM id = none) : none ∈ xs := by
  induction xs with
  | nil => cases h
  | cons x xs ih =>
    cases x with
    | none => exact List.mem_cons_self
    | some address =>
      rw [List.mapM_cons] at h
      cases hxs : xs.mapM id with
      | none => exact List.mem_cons_of_mem _ (ih hxs)
      | some addresses =>
        rw [hxs] at h
        cases h

/-- **A run of the tensors ends in one of these ways.** -/
theorem tensorsWith_ran {setDims : SetDims} {e e' : NNExecutor} {w w' : World} {env : ExecutorEnv}
    {inputTensors outputTensors : List (Option Nat)} {ret : ReturnCode}
    (h : e.tensorsWith setDims w env inputTensors outputTensors = .ok (ret, e', w')) :
    TensorsRan setDims e w env inputTensors outputTensors ret e' w' := by
  unfold tensorsWith at h
  split at h
  · cases h
  rename_i checked hchecked
  split at h
  · -- The shapes are out of range.
    rename_i hrange
    cases h
    refine .refused ?_ hrange.2
    rintro ⟨hforbidden | hsuccess, -⟩
    · rw [hchecked, Except.ok.injEq] at hforbidden
      exact hrange.1 hforbidden
    · rw [hchecked, Except.ok.injEq] at hsuccess
      exact hrange.2 hsuccess
  rename_i hrange
  have hchecks : e.checkInputDimRanges w env inputTensors = .ok .operationForbidden ∨
      e.checkInputDimRanges w env inputTensors = .ok .success := by
    rw [hchecked, Except.ok.injEq, Except.ok.injEq]
    by_contra hneither
    exact hrange (not_or.mp hneither)
  split at h
  · rename_i inputs outputs hinputs houtputs
    have hready : e.SyncReady w env inputTensors outputTensors :=
      ⟨hchecks, none_not_mem_of_mapM_id hinputs, none_not_mem_of_mapM_id houtputs⟩
    split at h
    · cases h
    split at h
    · rename_i hcode
      cases h
      exact .failed hready (fun hanswers => hcode hanswers.1) hcode
    rename_i hcode
    split at h
    · rename_i hlength
      cases h
      exact .failed hready (fun hanswers => hlength hanswers.2) (by decide)
    rename_i hlength
    have hanswers : RunAnswers env.run outputTensors.length :=
      ⟨not_not.mp hcode, not_not.mp hlength⟩
    split at h
    · cases h
    · rename_i hdims
      cases h
      exact .reported hready hanswers (mapM_id_eq_some houtputs) hdims
    · rename_i hne hdims
      cases h
      have hran : TensorsRan setDims e w env inputTensors outputTensors ret (e.posted ret) w' :=
        .reported hready hanswers (mapM_id_eq_some houtputs) hdims
      rwa [posted, if_neg hne] at hran
  · -- A tensor is missing.
    rename_i hmissing
    cases h
    refine .refused ?_ (by decide)
    rintro ⟨-, hinputs, houtputs⟩
    cases hin : inputTensors.mapM id with
    | none => exact hinputs (none_mem_of_mapM_id hin)
    | some inputs =>
      cases hout : outputTensors.mapM id with
      | none => exact houtputs (none_mem_of_mapM_id hout)
      | some outputs => exact hmissing inputs outputs hin hout

end NNExecutor

end NNRt
