import NNRt.Core.ShapeInvariant
import NNRt.Model.Calls
import NNRt.Model.Lookup
import NNRt.Ops.TensorValues

/-!
# Buffers of the model's tensors

`SetTensorValue` accepts a buffer of exactly the tensor's data length, once, and nothing
later changes what that length was computed from.

- `Sized`: what the sizes of a tensor have to do with each other.
- `AllSized.step`: every call keeps it, of all the tensors.
- `filled_of_reachable`: **in every reachable model, a tensor with a buffer has its elements
  in it.**
-/

namespace NNRt

/-- The sizes of a tensor fit together. -/
structure Sized (t : Tensor) : Prop where
  filled : t.Filled
  length : t.isDynamicShape = false → 0 < t.dataLength → 0 < t.elementCount.toNat ∧
    t.dataLength = t.elementCount.toNat * t.dataType.typeSize.toNat

namespace Sized

/-- Of a tensor only its sizes count. -/
theorem congr {t t' : Tensor} (h : Sized t) (hbuffer : t'.buffer = t.buffer)
    (htype : t'.dataType = t.dataType) (hcount : t'.elementCount = t.elementCount)
    (hlength : t'.dataLength = t.dataLength) (hdynamic : t'.isDynamicShape = t.isDynamicShape) :
    Sized t' := by
  refine ⟨?_, ?_⟩
  · unfold Tensor.Filled
    rw [hbuffer, hcount, htype]
    exact h.filled
  · rw [hdynamic, hlength, hcount, htype]
    exact h.length

theorem mark {t : Tensor} (h : Sized t) : Sized t.identifyOpParameter :=
  h.congr rfl rfl rfl rfl rfl

/-- A tensor that has just been built. -/
theorem of_built {t : Tensor} {call : NNTensor.ShapeCall}
    (h : call.perform ({} : Tensor) = (.success, t)) (hbuffer : t.buffer = none) : Sized t := by
  refine ⟨fun bytes hbytes => ?_, fun hstatic hpos => ?_⟩
  · rw [hbuffer] at hbytes
    cases hbytes
  · cases NNTensor.perform_effect h with
    | unread hret => exact absurd rfl hret
    | refused dims hret => exact absurd rfl hret
    | stored dims hvalidated haccepts htype hdims hflag hcount hlength =>
      have hknown : -1 ∉ dims := fun hmem => by
        rw [hflag.mpr hmem] at hstatic
        cases hstatic
      have hprod := NNTensor.dimsProduct_pos haccepts.2.1
      have hmax := haccepts.2.2
      rw [hlength hknown] at hpos ⊢
      rw [htype, hcount hknown]
      -- The type has a size, so the bound on the length is one on the elements.
      have hsize : 0 < (call.typeAfter ({} : Tensor)).typeSize.toNat :=
        Nat.pos_of_mul_pos_right hpos
      have hle := Nat.le_mul_of_pos_left (NNTensor.dimsProduct dims) hsize
      rw [Nat.mod_eq_of_lt (by omega)]
      exact ⟨hprod, Nat.mul_comm _ _⟩

/-- Checking dimensions leaves the buffer alone. -/
theorem buffer_of_validate {t u : Tensor} {dims : List Int32} {ret : ReturnCode}
    (h : t.validateDimensions dims = (ret, u)) : u.buffer = t.buffer := by
  have hbuffer := t.validateDimensions_buffer dims
  rw [h] at hbuffer
  exact hbuffer

theorem of_buildFromOHNNTensor {t : Tensor} {nnTensor : OHNNTensor}
    (h : ({} : Tensor).buildFromOHNNTensor nnTensor = (.success, t)) : Sized t := by
  have hcall : (NNTensor.ShapeCall.buildFromOHNNTensor nnTensor).perform ({} : Tensor) =
      (.success, t) := h
  obtain ⟨dataType, u, quantParams, -, hu, rfl⟩ := NNTensor.buildFromOHNNTensor_built h
  exact of_built hcall (buffer_of_validate hu)

theorem of_buildFromTensorDesc {t : Tensor} {desc : TensorDesc}
    (h : ({} : Tensor).buildFromTensorDesc desc = (.success, t)) : Sized t := by
  have hcall : (NNTensor.ShapeCall.buildFromTensorDesc (some desc)).perform ({} : Tensor) =
      (.success, t) := h
  have hbuffer := NNTensor.buildFromTensorDesc_buffer ({} : Tensor) desc
  rw [h] at hbuffer
  exact of_built hcall hbuffer

theorem of_buildFromOHNNTensorInfo {t : Tensor} {info : OHNNTensorInfo}
    (h : ({} : Tensor).buildFromOHNNTensorInfo info = (.success, t)) : Sized t := by
  have hcall : (NNTensor.ShapeCall.buildFromOHNNTensorInfo info).perform ({} : Tensor) =
      (.success, t) := h
  refine of_built hcall ?_
  unfold NNTensor.buildFromOHNNTensorInfo at h
  split at h
  · cases h
  split at h
  · cases h
  · obtain ⟨u, hu, rfl⟩ := NNTensor.parseDimensions_success h
    exact buffer_of_validate hu

/-- Quantisation parameters are no matter of size. -/
theorem setQuantParam {t : Tensor} (h : Sized t) (quantParam : Option QuantParams) :
    Sized (t.setQuantParam quantParam).2 := by
  unfold NNTensor.setQuantParam
  split
  · exact h
  · split
    · split
      · exact h.congr rfl rfl rfl rfl rfl
      · exact h.congr rfl rfl rfl rfl rfl
    · exact h.congr rfl rfl rfl rfl rfl

/-- A buffer of the data length is what the tensor can take. -/
theorem setBuffer {t : Tensor} (h : Sized t) {bytes : Bytes} (hstatic : t.isDynamicShape = false)
    (hlength : bytes.length = t.dataLength) (hpos : 0 < bytes.length) :
    Sized (t.setBuffer (some bytes) bytes.length) := by
  refine ⟨fun bytes' hbytes => ?_, h.length⟩
  cases hbytes
  have hsizes := h.length hstatic (hlength ▸ hpos)
  rw [← hlength] at hsizes
  exact hsizes

end Sized

namespace InnerModel

/-- The tensors of a model are sized. -/
def AllSized (m : InnerModel) : Prop :=
  ∀ t ∈ m.allTensors, Sized t

variable {m m' : InnerModel} {env : ModelEnv} {ret : ReturnCode}

theorem AllSized.push {t : Tensor} (h : m.AllSized) (ht : Sized t) : (m.pushTensor t).AllSized := by
  intro u hu
  rcases List.mem_append.mp hu with hu | hu
  · exact h u hu
  · obtain rfl := List.mem_singleton.mp hu
    exact ht.congr rfl rfl rfl rfl rfl

theorem AllSized.set {i : Nat} {t : Tensor} (h : m.AllSized) (ht : Sized t) :
    ({ m with allTensors := m.allTensors.set i t } : InnerModel).AllSized := by
  intro u hu
  rcases List.mem_or_eq_of_mem_set hu with hu | rfl
  · exact h u hu
  · exact ht

theorem AllSized.at {i : Nat} {t : Tensor} (h : m.AllSized) (ht : m.allTensors[i]? = some t) :
    Sized t :=
  h t (List.mem_of_getElem? ht)

theorem AllSized.marks {ops : List BuiltOp} (h : m.AllSized) (indices : List Nat) :
    ({ m with allTensors := markAll indices m.allTensors, ops := ops } : InnerModel).AllSized := by
  intro u hu
  obtain ⟨i, hi⟩ := List.getElem?_of_mem hu
  rw [getElem?_markAll] at hi
  obtain ⟨t, ht, rfl⟩ := Option.map_eq_some_iff.mp hi
  split
  · exact (h.at ht).mark
  · exact h.at ht

/-- The tensors of `SetInputsAndOutputsInfo` are as built. -/
theorem sized_of_tensorOfInfo {created : Bool} {info : OHNNTensorInfo} {t : Tensor}
    (h : tensorOfInfo created info = .ok t) : Sized t := by
  unfold tensorOfInfo at h
  split at h
  · cases h
  · split at h
    · rename_i hbuilt
      cases h
      exact Sized.of_buildFromOHNNTensorInfo hbuilt
    · cases h

/-- A tensor at the end, with nothing else of the list changed. -/
theorem AllSized.append {t : Tensor} (h : m.AllSized) (ht : Sized t)
    (hm' : m'.allTensors = m.allTensors ++ [t]) : m'.AllSized := by
  intro u hu
  rw [hm'] at hu
  rcases List.mem_append.mp hu with hu | hu
  · exact h u hu
  · obtain rfl := List.mem_singleton.mp hu
    exact ht

theorem AllSized.pushInputs (env : ModelEnv) (i : Nat) (h : m.AllSized)
    (infos : List OHNNTensorInfo) : (m.pushInputs env i infos).2.AllSized := by
  induction infos generalizing i m with
  | nil => exact h
  | cons info infos ih =>
    rw [InnerModel.pushInputs]
    cases ht : tensorOfInfo (env.createTensor i) info with
    | error ret => exact h
    | ok t => exact ih (i + 1) (h.append (sized_of_tensorOfInfo ht) rfl)

theorem AllSized.pushOutputs (env : ModelEnv) (i : Nat) (h : m.AllSized)
    (infos : List OHNNTensorInfo) : (m.pushOutputs env i infos).2.AllSized := by
  induction infos generalizing i m with
  | nil => exact h
  | cons info infos ih =>
    rw [InnerModel.pushOutputs]
    cases ht : tensorOfInfo (env.createTensor i) info with
    | error ret => exact h
    | ok t => exact ih (i + 1) (h.append (sized_of_tensorOfInfo ht) rfl)

/-- Every edit keeps the tensors sized. -/
theorem AllSized.edit {e : Edit} (h : m.AllSized) (hperform : e.perform m env = .ok (ret, m')) :
    m'.AllSized := by
  rcases Edit.perform_cases hperform with
    heffect | ⟨opType, params, inputs, outputs, rfl⟩ | ⟨inputs, outputs, rfl⟩
  · cases heffect with
    | same => exact h
    | addTensor hbuilt => exact h.push (Sized.of_buildFromOHNNTensor hbuilt)
    | addTensorDesc hbuilt => exact h.push (Sized.of_buildFromTensorDesc hbuilt)
    | setTensorType ht => exact h.set ((h.at ht).congr rfl rfl rfl rfl rfl)
    | setTensorQuantParam ht => exact h.set ((h.at ht).setQuantParam _)
    | setTensorValue ht hstatic hlength hcopied =>
      -- `memcpy_s` refuses to copy nothing.
      exact h.set ((h.at ht).setBuffer hstatic hlength (of_decide_eq_true hcopied).1)
  · obtain ⟨ops, rfl, -⟩ := addOperation_cases hperform
    exact h.marks _
  · rcases Edit.specifyInputsAndOutputs_cases (Except.ok.inj hperform) with
      ⟨-, rfl⟩ | ⟨-, -, -, rfl⟩
    · exact h
    · exact h

/-- **Every call keeps the tensors sized.** -/
theorem AllSized.step {call : ModelEnv × Call} (h : m.AllSized) (hstep : m.step call = .ok m') :
    m'.AllSized := by
  obtain ⟨env, call⟩ := call
  obtain ⟨ret, hperform⟩ : ∃ ret, call.perform m env = .ok (ret, m') := by
    unfold InnerModel.step at hstep
    cases hperform : call.perform m env with
    | error fault =>
      rw [hperform] at hstep
      cases hstep
    | ok p =>
      rw [hperform] at hstep
      cases hstep
      exact ⟨p.1, rfl⟩
  cases call with
  | edit e => exact h.edit hperform
  | setInputsAndOutputsInfo inputsInfo outputsInfo =>
    obtain rfl : (m.setInputsAndOutputsInfo env inputsInfo outputsInfo).2 = m' :=
      congrArg Prod.snd (Except.ok.inj hperform)
    have hinputs := h.pushInputs env 0 inputsInfo
    unfold setInputsAndOutputsInfo
    split
    · exact h
    · split
      · rename_i hpushed
        rw [hpushed] at hinputs
        exact AllSized.pushOutputs env _ hinputs outputsInfo
      · rename_i hpushed
        rw [hpushed] at hinputs
        exact hinputs
  | buildFromLiteGraph liteGraph extensionConfig =>
    obtain rfl : (m.buildFromLiteGraph env liteGraph extensionConfig).2 = m' :=
      congrArg Prod.snd (Except.ok.inj hperform)
    unfold buildFromLiteGraph
    split
    · exact h
    · split
      · exact h
      · split
        · exact h
        · split
          · split <;> exact h
          · exact h
  | buildFromMetaGraph metaGraph extensionConfig =>
    obtain rfl : (m.buildFromMetaGraph metaGraph extensionConfig).2 = m' :=
      congrArg Prod.snd (Except.ok.inj hperform)
    unfold buildFromMetaGraph
    split
    · exact h
    · split
      · exact h
      · split <;> exact h
  | build =>
    have hbuild : m.build env = .ok (ret, m') := hperform
    have hsame : m'.allTensors = m.allTensors := by
      unfold InnerModel.build at hbuild
      grind
    unfold AllSized
    rw [hsame]
    exact h

/-- **In every reachable model, a tensor with a buffer has its elements in it.** -/
theorem filled_of_reachable (h : m.Reachable) : ∀ t ∈ m.allTensors, t.Filled := by
  obtain ⟨calls, hexec⟩ := h
  have hsized : m.AllSized :=
    Run.exec_invariant (P := AllSized) (fun _ _ _ hs hstep => hs.step hstep)
      (fun _ ht => absurd ht List.not_mem_nil) hexec
  exact fun t ht => (hsized t ht).filled

end InnerModel

end NNRt
