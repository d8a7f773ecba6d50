import NNRt.Model.Calls

/-!
# Built models

Once a model is built, by whichever of the three ways, its mutators refuse to
change it. Ten of the eleven ask `IsBuild` first or look at both graphs;
`AddTensorDesc` does not ask.

- `refused_of_isBuild`: every other call returns an error and leaves the model.
- `frozen_iff`: a run on a built model changes nothing exactly if none of its
  calls adds a tensor by a description.
-/

namespace NNRt

namespace InnerModel

variable {m : InnerModel} {env : ModelEnv}

/-- Every call of a run returns an error and leaves the model it started from. -/
def Frozen (m : InnerModel) : List (ModelEnv × Call) → Prop
  | [] => True
  | call :: calls =>
    ∃ ret m', call.2.perform m call.1 = .ok (ret, m') ∧ ret ≠ .success ∧ m' = m ∧
      Frozen m' calls

/-- `AddTensorDesc` of a description whose shape goes with its data type. -/
def AddsTensor : ModelEnv × Call → Prop
  | (env, .edit (.addTensorDesc (some desc))) =>
    env.createTensor 0 = true ∧
      (({ dataType := desc.dataType } : Tensor).validateDimensions desc.shape).1 = .success
  | _ => False

/-- A tensor is built from a description exactly if its shape is valid. -/
theorem buildFromTensorDesc_success_iff (desc : TensorDesc) :
    (({} : Tensor).buildFromTensorDesc desc).1 = .success ↔
      (({ dataType := desc.dataType } : Tensor).validateDimensions desc.shape).1 = .success := by
  unfold NNTensor.buildFromTensorDesc NNTensor.build
  dsimp only
  split
  · rename_i t ht
    rw [ht]
    exact iff_of_true rfl rfl
  · rename_i ret t hret ht
    rw [ht]

/-- `AddTensorDesc` succeeds, or it changes nothing. -/
theorem addTensorDesc_cases (m : InnerModel) (env : ModelEnv) (desc : Option TensorDesc) :
    (AddsTensor (env, .edit (.addTensorDesc desc)) ∧ (m.addTensorDesc env desc).1 = .success) ∨
      (¬ AddsTensor (env, .edit (.addTensorDesc desc)) ∧
        ∃ ret, ret ≠ .success ∧ m.addTensorDesc env desc = (ret, m)) := by
  cases desc with
  | none => exact .inr ⟨fun h => h, .invalidParameter, by decide, rfl⟩
  | some desc =>
    unfold addTensorDesc AddsTensor
    dsimp only
    rw [← buildFromTensorDesc_success_iff]
    by_cases hcreate : env.createTensor 0 = true
    · rw [hcreate]
      cases hbuild : ({} : Tensor).buildFromTensorDesc desc with
      | mk ret t =>
        by_cases hret : ret = .success
        · subst hret
          exact .inl ⟨⟨rfl, rfl⟩, rfl⟩
        · refine .inr ⟨fun h => hret h.2, ret, hret, ?_⟩
          cases ret <;> first | exact absurd rfl hret | rfl
    · rw [Bool.not_eq_true] at hcreate
      rw [hcreate]
      refine .inr ⟨?_, .memoryError, by decide, rfl⟩
      rintro ⟨h, -⟩
      cases h

/-- **Every call but `AddTensorDesc`** is refused by a built model. -/
theorem refused_of_isBuild (hbuild : m.isBuild = true) (call : Call)
    (hcall : ∀ desc, call ≠ .edit (.addTensorDesc desc)) :
    ∃ ret, ret ≠ .success ∧ call.perform m env = .ok (ret, m) := by
  have hforbidden : ReturnCode.operationForbidden ≠ .success := by decide
  cases call with
  | edit e =>
    refine ⟨.operationForbidden, hforbidden, ?_⟩
    cases e with
    | addTensor nnTensor =>
      show Except.ok (m.addTensor env nnTensor) = _
      rw [addTensor, if_pos hbuild]
    | addTensorDesc desc => exact absurd rfl (hcall desc)
    | setTensorType index tensorType =>
      show Except.ok (m.setTensorType index tensorType) = _
      rw [setTensorType, if_pos hbuild]
    | setTensorQuantParam index quantParam =>
      show Except.ok (m.setTensorQuantParam index quantParam) = _
      rw [setTensorQuantParam, if_pos hbuild]
    | setTensorValue index buffer =>
      show Except.ok (m.setTensorValue env index buffer) = _
      rw [setTensorValue, if_pos hbuild]
    | addOperation opType params inputs outputs =>
      show m.addOperation opType params inputs outputs = _
      unfold addOperation
      rw [if_pos hbuild]
    | specifyInputsAndOutputs inputs outputs =>
      show Except.ok (m.specifyInputsAndOutputs inputs outputs) = _
      rw [specifyInputsAndOutputs, if_pos hbuild]
  | setInputsAndOutputsInfo inputsInfo outputsInfo =>
    -- The two null checks of `CheckParameters` are `IsBuild` in other words.
    have hcheck : m.checkParameters = .operationForbidden := by
      rw [checkParameters, if_pos hbuild]
    refine ⟨.operationForbidden, hforbidden, ?_⟩
    show Except.ok (m.setInputsAndOutputsInfo env inputsInfo outputsInfo) = _
    rw [setInputsAndOutputsInfo, hcheck, if_pos hforbidden]
  | buildFromLiteGraph liteGraph extensionConfig =>
    -- A null graph is refused before the model is looked at.
    cases liteGraph with
    | none => exact ⟨.invalidParameter, by decide, rfl⟩
    | some graph =>
      refine ⟨.operationForbidden, hforbidden, ?_⟩
      show Except.ok (m.buildFromLiteGraph env (some graph) extensionConfig) = _
      unfold buildFromLiteGraph
      dsimp only
      rw [if_pos hbuild]
  | buildFromMetaGraph metaGraph extensionConfig =>
    cases metaGraph with
    | none => exact ⟨.invalidParameter, by decide, rfl⟩
    | some address =>
      refine ⟨.operationForbidden, hforbidden, ?_⟩
      show Except.ok (m.buildFromMetaGraph (some address) extensionConfig) = _
      unfold buildFromMetaGraph
      dsimp only
      rw [if_pos hbuild]
  | build =>
    refine ⟨.operationForbidden, hforbidden, ?_⟩
    show m.build env = _
    rw [build, if_pos hbuild]

/-- One call on a built model is refused exactly if it does not add a tensor. -/
theorem refused_iff (hbuild : m.isBuild = true) (call : ModelEnv × Call) :
    (∃ ret m', call.2.perform m call.1 = .ok (ret, m') ∧ ret ≠ .success ∧ m' = m) ↔
      ¬ AddsTensor call := by
  obtain ⟨env, call⟩ := call
  by_cases hdesc : ∃ desc, call = .edit (.addTensorDesc desc)
  · obtain ⟨desc, rfl⟩ := hdesc
    rcases m.addTensorDesc_cases env desc with ⟨hadds, hsuccess⟩ | ⟨hnot, ret, hret, heq⟩
    · refine iff_of_false ?_ (not_not_intro hadds)
      rintro ⟨ret, m', hperform, hret, -⟩
      have heq : m.addTensorDesc env desc = (ret, m') := Except.ok.inj hperform
      rw [heq] at hsuccess
      exact hret hsuccess
    · exact iff_of_true ⟨ret, m, congrArg Except.ok heq, hret, rfl⟩ hnot
  · obtain ⟨ret, hret, hperform⟩ : ∃ ret, ret ≠ .success ∧ call.perform m env = .ok (ret, m) :=
      refused_of_isBuild hbuild call fun desc h => hdesc ⟨desc, h⟩
    refine iff_of_true ⟨ret, m, hperform, hret, rfl⟩ ?_
    intro hadds
    unfold AddsTensor at hadds
    split at hadds
    next desc heq => exact hdesc ⟨_, (Prod.mk.inj heq).2⟩
    next => exact hadds

/-- **A built model is frozen** throughout a run exactly if no call of the run adds
a tensor by a description. -/
theorem frozen_iff (hbuild : m.isBuild = true) (calls : List (ModelEnv × Call)) :
    m.Frozen calls ↔ ∀ call ∈ calls, ¬ AddsTensor call := by
  induction calls with
  | nil => exact iff_of_true trivial (List.forall_mem_nil _)
  | cons call calls ih =>
    rw [List.forall_mem_cons]
    constructor
    · rintro ⟨ret, m', hperform, hret, hm', hrest⟩
      rw [hm'] at hrest
      exact ⟨(refused_iff hbuild call).mp ⟨ret, m', hperform, hret, hm'⟩, ih.mp hrest⟩
    · rintro ⟨hcall, hrest⟩
      obtain ⟨ret, m', hperform, hret, hm'⟩ := (refused_iff hbuild call).mpr hcall
      refine ⟨ret, m', hperform, hret, hm', ?_⟩
      rw [hm']
      exact ih.mpr hrest

/-- A model of one input and one output, built from a meta graph. -/
def metaModel : List (ModelEnv × Call) :=
  [({}, .setInputsAndOutputsInfo [⟨emptyName, some .float32, .array [1], some .nd⟩]
      [⟨emptyName, some .float32, .array [1], some .nd⟩]),
    ({}, .buildFromMetaGraph (some 0) {})]

/-- What a caller may try on a built model. -/
def lateCalls : List (ModelEnv × Call) :=
  [({}, .edit (.setTensorValue 0 (some [0, 0, 128, 63]))),
    ({}, .edit (.addTensor ⟨some .float32, .array [1], none, some .tensor⟩)),
    ({}, .edit (.addTensorDesc none)),
    ({}, .edit (.addOperation (some .abs) (.null 0) (.array [0]) (.array [1]))),
    ({}, .setInputsAndOutputsInfo [] []),
    ({}, .buildFromMetaGraph (some 1) {}),
    ({}, .build)]

theorem frozen_iff_metaModel : ∃ m : InnerModel, Run.exec step {} metaModel = .ok m ∧
    m.Frozen lateCalls := by
  obtain ⟨m, hm, hbuild⟩ : ∃ m : InnerModel, Run.exec step {} metaModel = .ok m ∧
      m.isBuild = true := ⟨_, rfl, rfl⟩
  refine ⟨m, hm, (frozen_iff hbuild lateCalls).mpr ?_⟩
  simp [lateCalls, AddsTensor]

/-- It is built, and `AddTensorDesc` adds a third tensor to it. -/
theorem metaModel_not_frozen : ∃ m : InnerModel, Run.exec step {} metaModel = .ok m ∧
    m.isBuild = true ∧ ¬ m.Frozen [({}, .edit (.addTensorDesc (some (.floats 1))))] ∧
      (m.addTensorDesc {} (some (.floats 1))).1 = .success ∧
      m.allTensors.length = 2 ∧
      (m.addTensorDesc {} (some (.floats 1))).2.allTensors.length = 3 := by
  refine ⟨_, rfl, rfl, ?_, rfl, rfl, rfl⟩
  rintro ⟨ret, m', hperform, hret, -⟩
  cases hperform
  exact hret rfl

end InnerModel

end NNRt
