import NNRt.Lib.Run
import NNRt.Model.InnerModel

/-!
# Calls on a model

The calls as data, and their runs. `Edit` has the calls with which a user adds
to a model; `Call` has every mutator. A run pairs each call with what is outside
the model during it.
-/

namespace NNRt

/-- The calls that add tensors and operations to a model. -/
inductive Edit
  | addTensor (nnTensor : OHNNTensor)
  | addTensorDesc (desc : Option TensorDesc)
  | setTensorType (index : Nat) (tensorType : TensorType)
  | setTensorQuantParam (index : Nat) (quantParam : Option QuantParams)
  | setTensorValue (index : Nat) (buffer : Option Bytes)
  | addOperation (opType : Option OperationType) (params inputs outputs : CArray Nat)
  | specifyInputsAndOutputs (inputs outputs : CArray Nat)

/-- Every mutator of a model. -/
inductive Call
  | edit (e : Edit)
  | setInputsAndOutputsInfo (inputsInfo outputsInfo : List OHNNTensorInfo)
  | buildFromLiteGraph (liteGraph : Option LiteGraph) (extensionConfig : ExtensionConfig)
  | buildFromMetaGraph (metaGraph : Option Nat) (extensionConfig : ExtensionConfig)
  | build

/-- The code of an edit and the model it leaves. -/
def Edit.perform (m : InnerModel) (env : ModelEnv) : Edit → Except Fault (ReturnCode × InnerModel)
  | .addTensor nnTensor => .ok (m.addTensor env nnTensor)
  | .addTensorDesc desc => .ok (m.addTensorDesc env desc)
  | .setTensorType index tensorType => .ok (m.setTensorType index tensorType)
  | .setTensorQuantParam index quantParam => .ok (m.setTensorQuantParam index quantParam)
  | .setTensorValue index buffer => .ok (m.setTensorValue env index buffer)
  | .addOperation opType params inputs outputs => m.addOperation opType params inputs outputs
  | .specifyInputsAndOutputs inputs outputs => .ok (m.specifyInputsAndOutputs inputs outputs)

/-- The code of a call and the model it leaves. -/
def Call.perform (m : InnerModel) (env : ModelEnv) : Call → Except Fault (ReturnCode × InnerModel)
  | .edit e => e.perform m env
  | .setInputsAndOutputsInfo inputsInfo outputsInfo =>
    .ok (m.setInputsAndOutputsInfo env inputsInfo outputsInfo)
  | .buildFromLiteGraph liteGraph extensionConfig =>
    .ok (m.buildFromLiteGraph env liteGraph extensionConfig)
  | .buildFromMetaGraph metaGraph extensionConfig =>
    .ok (m.buildFromMetaGraph metaGraph extensionConfig)
  | .build => m.build env

namespace InnerModel

/-- One edit, whatever its code. -/
def edit (m : InnerModel) (call : ModelEnv × Edit) : Except Fault InnerModel :=
  (call.2.perform m call.1).map Prod.snd

/-- One call, whatever its code. -/
def step (m : InnerModel) (call : ModelEnv × Call) : Except Fault InnerModel :=
  (call.2.perform m call.1).map Prod.snd

/-- The models that calls lead to from an empty one. -/
def Reachable (m : InnerModel) : Prop :=
  ∃ calls, Run.exec step {} calls = .ok m

/-- An edit that does not fault has a code. -/
theorem edit_eq_ok {m m' : InnerModel} {call : ModelEnv × Edit} (h : m.edit call = .ok m') :
    ∃ ret, call.2.perform m call.1 = .ok (ret, m') := by
  unfold edit at h
  cases hperform : call.2.perform m call.1 with
  | error fault =>
    rw [hperform] at h
    cases h
  | ok p =>
    rw [hperform] at h
    cases h
    exact ⟨p.1, rfl⟩

end InnerModel

/-! ## The edits of tensors -/

namespace Edit

open InnerModel

/-- The edits that are about one tensor. -/
def OfTensor : Edit → Prop
  | .addOperation .. | .specifyInputsAndOutputs .. => False
  | _ => True

/-- What an edit that is about one tensor does. -/
inductive TensorEffect (m : InnerModel) : Edit → ReturnCode → InnerModel → Prop
  /-- It fails, or leaves out the value. -/
  | same {e : Edit} {ret : ReturnCode} (he : e.OfTensor)
    (hret : ret = .success → ∃ index, e = .setTensorValue index none) : TensorEffect m e ret m
  | addTensor {nnTensor : OHNNTensor} {t : Tensor}
    (hbuilt : ({} : Tensor).buildFromOHNNTensor nnTensor = (.success, t)) :
    TensorEffect m (.addTensor nnTensor) .success (m.pushTensor t)
  | addTensorDesc {desc : TensorDesc} {t : Tensor}
    (hbuilt : ({} : Tensor).buildFromTensorDesc desc = (.success, t)) :
    TensorEffect m (.addTensorDesc (some desc)) .success (m.pushTensor t)
  | setTensorType {index : Nat} {tensorType : TensorType} {t : Tensor}
    (ht : m.allTensors[index]? = some t) :
    TensorEffect m (.setTensorType index tensorType) .success
      { m with allTensors := m.allTensors.set index { t with tensorType := tensorType } }
  /-- The old parameters are gone also when the new ones are refused. -/
  | setTensorQuantParam {index : Nat} {quantParam : Option QuantParams} {t : Tensor}
    (ht : m.allTensors[index]? = some t) :
    TensorEffect m (.setTensorQuantParam index quantParam) (t.setQuantParam quantParam).1
      { m with allTensors := m.allTensors.set index (t.setQuantParam quantParam).2 }
  | setTensorValue {index : Nat} {bytes : Bytes} {t : Tensor}
    (ht : m.allTensors[index]? = some t) (hstatic : t.isDynamicShape = false)
    (hlength : bytes.length = t.dataLength) (hcopied : memcpySucceeds bytes.length = true) :
    TensorEffect m (.setTensorValue index (some bytes)) .success
      { m with allTensors := m.allTensors.set index (t.setBuffer (some bytes) bytes.length) }

variable {m m' : InnerModel} {env : ModelEnv} {ret : ReturnCode}

theorem effect_addTensor {nnTensor : OHNNTensor} (h : m.addTensor env nnTensor = (ret, m')) :
    TensorEffect m (.addTensor nnTensor) ret m' := by
  unfold InnerModel.addTensor at h
  split at h
  · cases h
    exact .same trivial fun hret => by cases hret
  split at h
  · cases h
    exact .same trivial fun hret => by cases hret
  split at h
  · rename_i t hbuilt
    cases h
    exact .addTensor hbuilt
  · rename_i hne _
    cases h
    exact .same trivial fun hret => (hne hret).elim

theorem effect_addTensorDesc {desc : Option TensorDesc}
    (h : m.addTensorDesc env desc = (ret, m')) : TensorEffect m (.addTensorDesc desc) ret m' := by
  unfold InnerModel.addTensorDesc at h
  split at h
  · cases h
    exact .same trivial fun hret => by cases hret
  split at h
  · cases h
    exact .same trivial fun hret => by cases hret
  split at h
  · rename_i t hbuilt
    cases h
    exact .addTensorDesc hbuilt
  · rename_i hne _
    cases h
    exact .same trivial fun hret => (hne hret).elim

theorem effect_setTensorType {index : Nat} {tensorType : TensorType}
    (h : m.setTensorType index tensorType = (ret, m')) :
    TensorEffect m (.setTensorType index tensorType) ret m' := by
  unfold InnerModel.setTensorType at h
  split at h
  · cases h
    exact .same trivial fun hret => by cases hret
  split at h
  · cases h
    exact .same trivial fun hret => by cases hret
  · rename_i t ht
    cases h
    exact .setTensorType ht

theorem effect_setTensorQuantParam {index : Nat} {quantParam : Option QuantParams}
    (h : m.setTensorQuantParam index quantParam = (ret, m')) :
    TensorEffect m (.setTensorQuantParam index quantParam) ret m' := by
  unfold InnerModel.setTensorQuantParam at h
  split at h
  · cases h
    exact .same trivial fun hret => by cases hret
  split at h
  · cases h
    exact .same trivial fun hret => by cases hret
  · rename_i t ht
    cases h
    exact .setTensorQuantParam ht

theorem effect_setTensorValue {index : Nat} {buffer : Option Bytes}
    (h : m.setTensorValue env index buffer = (ret, m')) :
    TensorEffect m (.setTensorValue index buffer) ret m' := by
  unfold InnerModel.setTensorValue at h
  split at h
  · cases h
    exact .same trivial fun hret => by cases hret
  split at h
  · cases h
    exact .same trivial fun hret => by cases hret
  rename_i t ht
  split at h
  · cases h
    exact .same trivial fun hret => by cases hret
  split at h
  · cases h
    exact .same trivial fun _ => ⟨index, rfl⟩
  rename_i bytes
  split at h
  · cases h
    exact .same trivial fun hret => by cases hret
  rename_i hstatic
  split at h
  · cases h
    exact .same trivial fun hret => by cases hret
  rename_i hlength
  split at h
  · cases h
    exact .same trivial fun hret => by cases hret
  split at h
  · cases h
    exact .same trivial fun hret => by cases hret
  · rename_i hcopied
    cases h
    rw [Bool.not_eq_true, Bool.not_eq_false'] at hcopied
    exact .setTensorValue ht (Bool.eq_false_iff.mpr hstatic) (not_not.mp hlength) hcopied

/-- `SpecifyInputsAndOutputs` fails and changes nothing, or specifies what was not specified. -/
theorem specifyInputsAndOutputs_cases {inputs outputs : CArray Nat}
    (h : m.specifyInputsAndOutputs inputs outputs = (ret, m')) :
    (ret ≠ .success ∧ m' = m) ∨
      ret = .success ∧ m.inputTensors = [] ∧
        m.validateInputAndOutput inputs outputs = .success ∧
        m' = { m with
          inputIndices := inputs.toVector
          outputIndices := outputs.toVector
          inputTensors := m.inputTensors ++ inputs.toVector.map .shared
          outputTensors := m.outputTensors ++ outputs.toVector.map .shared } := by
  unfold InnerModel.specifyInputsAndOutputs at h
  split at h
  · cases h
    exact .inl ⟨by decide, rfl⟩
  split at h
  · cases h
    exact .inl ⟨by decide, rfl⟩
  rename_i hunspecified
  split at h
  · rename_i hvalid
    cases h
    exact .inl ⟨hvalid, rfl⟩
  · rename_i hvalid
    cases h
    exact .inr ⟨rfl, by simpa using hunspecified, not_not.mp hvalid, rfl⟩

/-- **An edit** is about one tensor, adds an operation, or names the inputs and outputs. -/
theorem perform_cases {e : Edit} (h : e.perform m env = .ok (ret, m')) :
    TensorEffect m e ret m' ∨
      (∃ opType params inputs outputs, e = .addOperation opType params inputs outputs) ∨
      ∃ inputs outputs, e = .specifyInputsAndOutputs inputs outputs := by
  cases e with
  | addTensor nnTensor => exact .inl (effect_addTensor (Except.ok.inj h))
  | addTensorDesc desc => exact .inl (effect_addTensorDesc (Except.ok.inj h))
  | setTensorType index tensorType => exact .inl (effect_setTensorType (Except.ok.inj h))
  | setTensorQuantParam index quantParam =>
    exact .inl (effect_setTensorQuantParam (Except.ok.inj h))
  | setTensorValue index buffer => exact .inl (effect_setTensorValue (Except.ok.inj h))
  | addOperation opType params inputs outputs =>
    exact .inr (.inl ⟨opType, params, inputs, outputs, rfl⟩)
  | specifyInputsAndOutputs inputs outputs => exact .inr (.inr ⟨inputs, outputs, rfl⟩)

/-- An edit of a tensor that fails, other than of the quantization, changes nothing. -/
theorem TensorEffect.same_of_failed {e : Edit} (h : TensorEffect m e ret m')
    (he : ∀ index quantParam, e ≠ .setTensorQuantParam index quantParam)
    (hret : ret ≠ .success) : m' = m := by
  cases h with
  | same => rfl
  | setTensorQuantParam => exact absurd rfl (he _ _)
  | addTensor | addTensorDesc | setTensorType | setTensorValue => exact absurd rfl hret

/-- Such an edit leaves all but the tensors. -/
theorem TensorEffect.ops_eq {e : Edit} (h : TensorEffect m e ret m') : m'.ops = m.ops := by
  cases h <;> rfl

end Edit

end NNRt
