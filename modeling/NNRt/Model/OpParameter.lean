import NNRt.Model.Lookup

/-!
# Operation parameters stay out of the graph

A builder marks its parameter tensors in the loop of `Build` or in the setter of each
type. A tensor whose setter forgets the mark becomes a tensor of the lite graph.

- `marked_iff_table`: the types whose setter forgets it, operation by operation.
- `buildParams_marked`: which tensors a loop that accepts all parameters has marked.
- `parameters_leftOut_iff`: **after an accepted operation its parameters stay out of the
  graph exactly if none of them has such a type**, or was marked before.
-/

namespace NNRt

/-- The types of parameters that the builder of an operation does not mark. -/
def OperationType.unmarkedParams : OperationType → List TensorType
  | .avgPool => [.maxPoolGlobal, .avgPoolGlobal]
  | .maxPool => [.maxPoolGlobal, .avgPoolGlobal]
  | .fullConnection => [.fullConnectionHasBias, .fullConnectionUseAxis]
  | .reduceMean => [.reduceMeanCoeff]
  | .reduceProd => [.reduceProdCoeff]
  | .reduceAll => [.reduceAllCoeff]
  | .reduceMax => [.reduceMaxCoeff]
  | .reduceMin => [.reduceMinCoeff]
  | .reduceSum => [.reduceSumCoeff]
  | .reduceL2 => [.reduceL2Coeff]
  | _ => []

namespace Check

/-- A tensor that passes the checks is marked if one of them marks it. -/
theorem marks_of_run {checks : List Check} {t : Tensor} (h : (run checks t).1 = true) :
    marks t checks = decide (.mark ∈ checks) := by
  induction checks with
  | nil => rfl
  | cons check checks ih =>
    by_cases hmark : check = .mark
    · subst hmark
      rw [marks, decide_eq_true List.mem_cons_self]
    · have hrun : run (check :: checks) t =
          if check.passes t then run checks t else (false, t) := by
        cases check <;> first | rfl | exact absurd rfl hmark
      have hmarks : marks t (check :: checks) = (check.passes t && marks t checks) := by
        cases check <;> first | rfl | exact absurd rfl hmark
      have hmem : Check.mark ∈ check :: checks ↔ Check.mark ∈ checks := by
        rw [List.mem_cons]
        exact or_iff_right fun heq => hmark heq.symm
      rw [hrun] at h
      rw [hmarks, decide_eq_decide.mpr hmem]
      by_cases hpass : check.passes t = true
      · rw [if_pos hpass] at h
        rw [hpass, Bool.true_and, ih h]
      · rw [if_neg hpass] at h
        cases h

end Check

/-- A setter that accepts a tensor has run all its checks. -/
theorem Setter.passed_of_run {σ : Type} {setter : Setter σ} {s s' : σ} {t t' : Tensor}
    (h : setter.run s t = .ok (some s', t')) : (Check.run setter.checks t).1 = true := by
  unfold Setter.run at h
  split at h
  · cases h
  · rename_i heq
    rw [heq]

namespace OpsBuilder

variable {σ : Type} {b : OpsBuilder σ}

/-- Does a builder mark the parameters of this type that it accepts? -/
def marksType (b : OpsBuilder σ) (type : TensorType) : Bool :=
  b.marksParams ||
    match b.paramMap.lookup type with
    | none => false
    | some setter => decide (.mark ∈ setter.checks)

/-- A parameter that is accepted. -/
theorem marksTensor_of_setParam {s s' : σ} {t t' : Tensor}
    (h : b.setParam s t = .ok (some s', t')) : b.marksTensor t = b.marksType t.tensorType := by
  unfold setParam at h
  unfold marksTensor marksType
  by_cases hparams : b.marksParams = true
  · rw [hparams, Bool.true_or, Bool.true_or]
  · rw [if_neg hparams] at h
    rw [Bool.not_eq_true] at hparams
    rw [hparams, Bool.false_or, Bool.false_or]
    dsimp only at h
    cases hlookup : b.paramMap.lookup t.tensorType with
    | none => rfl
    | some setter =>
      rw [hlookup] at h
      exact Check.marks_of_run (Setter.passed_of_run h)

/-- What a parameter that is accepted leaves. -/
theorem setParam_tensorType {s : σ} {t t' : Tensor} {r : Option σ}
    (h : b.setParam s t = .ok (r, t')) : t'.tensorType = t.tensorType := by
  rw [setParam_tensor h]
  split <;> rfl

/-- The tensor of an index is there and has a type of some kind. -/
def TypeAt (P : TensorType → Prop) (tensors : List Tensor) (i : Nat) : Prop :=
  ∃ t, tensors[i]? = some t ∧ P t.tensorType

theorem typeAt_iff {P : TensorType → Prop} {tensors : List Tensor} {i : Nat} {t : Tensor}
    (ht : tensors[i]? = some t) : TypeAt P tensors i ↔ P t.tensorType := by
  constructor
  · rintro ⟨u, hu, hP⟩
    cases ht.symm.trans hu
    exact hP
  · exact fun hP => ⟨t, ht, hP⟩

/-- A tensor that keeps its type changes nothing. -/
theorem typeAt_set {P : TensorType → Prop} {tensors : List Tensor} {i j : Nat} {t t' : Tensor}
    (ht : tensors[i]? = some t) (htype : t'.tensorType = t.tensorType) :
    TypeAt P (tensors.set i t') j ↔ TypeAt P tensors j := by
  by_cases hij : i = j
  · subst hij
    have hset : (tensors.set i t')[i]? = some t' :=
      List.getElem?_set_self (List.getElem?_eq_some_iff.mp ht).1
    rw [typeAt_iff hset, typeAt_iff ht, htype]
  · unfold TypeAt
    rw [List.getElem?_set_ne hij]

/-- A loop that accepts all parameters, step by step. -/
theorem buildParams_cons {i : Nat} {params : List Nat} {s s' : σ} {tensors tensors' : List Tensor}
    (h : b.buildParams (i :: params) s tensors = .ok (some s', tensors')) :
    ∃ t s₁ t', tensors[i]? = some t ∧ b.setParam s t = .ok (some s₁, t') ∧
      b.buildParams params s₁ (tensors.set i t') = .ok (some s', tensors') ∧
      b.marked (i :: params) s tensors =
        if b.marksTensor t then i :: b.marked params s₁ (tensors.set i t')
        else b.marked params s₁ (tensors.set i t') := by
  rw [buildParams] at h
  split at h
  · cases h
  rename_i t hi
  split at h
  · cases h
  · cases h
  · rename_i s₁ t' hparam
    refine ⟨t, s₁, t', hi, hparam, h, ?_⟩
    rw [marked, hi]
    dsimp only
    rw [hparam]

/-- **The loop over parameters that are all accepted** marks those of a marked type. -/
theorem buildParams_marked {params : List Nat} {s s' : σ} {tensors tensors' : List Tensor}
    (h : b.buildParams params s tensors = .ok (some s', tensors')) (j : Nat) :
    j ∈ b.marked params s tensors ↔
      j ∈ params ∧ TypeAt (fun type => b.marksType type = true) tensors j := by
  induction params generalizing s tensors with
  | nil => exact iff_of_false List.not_mem_nil fun h => List.not_mem_nil h.1
  | cons i params ih =>
    obtain ⟨t, s₁, t', hi, hparam, hrest, hmarked⟩ := buildParams_cons h
    have hmem := ih hrest
    rw [typeAt_set hi (setParam_tensorType hparam)] at hmem
    have hat := typeAt_iff (P := fun type => b.marksType type = true) hi
    rw [← marksTensor_of_setParam hparam] at hat
    rw [hmarked, List.mem_cons]
    by_cases hmarks : b.marksTensor t = true
    · -- The index may come again among the rest, where it is marked as well.
      rw [if_pos hmarks, List.mem_cons, hmem]
      constructor
      · rintro (rfl | ⟨hj, hat'⟩)
        · exact ⟨Or.inl rfl, hat.mpr hmarks⟩
        · exact ⟨Or.inr hj, hat'⟩
      · rintro ⟨rfl | hj, hat'⟩
        · exact Or.inl rfl
        · exact Or.inr ⟨hj, hat'⟩
    · rw [if_neg hmarks, hmem]
      constructor
      · rintro ⟨hj, hat'⟩
        exact ⟨Or.inr hj, hat'⟩
      · rintro ⟨rfl | hj, hat'⟩
        · exact absurd (hat.mp hat') hmarks
        · exact ⟨hj, hat'⟩

/-- It has a setter for each of them. -/
theorem buildParams_known {params : List Nat} {s s' : σ} {tensors tensors' : List Tensor}
    (h : b.buildParams params s tensors = .ok (some s', tensors')) :
    ∀ j ∈ params,
      TypeAt (fun type => ∃ setter, b.paramMap.lookup type = some setter) tensors j := by
  induction params generalizing s tensors with
  | nil => exact fun j hj => absurd hj List.not_mem_nil
  | cons i params ih =>
    obtain ⟨t, s₁, t', hi, hparam, hrest, -⟩ := buildParams_cons h
    intro j hj
    rcases List.mem_cons.mp hj with rfl | hj
    · rw [typeAt_iff hi]
      unfold setParam at hparam
      have htype : (if b.marksParams then t.identifyOpParameter else t).tensorType =
          t.tensorType := by split <;> rfl
      dsimp only at hparam
      rw [htype] at hparam
      split at hparam
      · cases hparam
      · rename_i setter hlookup
        exact ⟨setter, hlookup⟩
    · exact (typeAt_set hi (setParam_tensorType hparam)).mp (ih hrest j hj)

end OpsBuilder

/-- **The types that are not marked** are the ones of the table. -/
theorem marked_iff_table (opType : OperationType) :
    ∀ p ∈ (getOpsBuilder opType).builder.paramMap,
      ((getOpsBuilder opType).builder.marksParams = true ∨ .mark ∈ p.2.checks) ↔
        p.1 ∉ opType.unmarkedParams := by
  cases opType <;> decide

namespace InnerModel

variable {m m' : InnerModel} {opType : Option OperationType} {params inputs outputs : CArray Nat}

/-- A tensor is marked, and the graph gets none for it. -/
def LeavesOut (m : InnerModel) (i : Nat) : Prop :=
  (∀ t, m.allTensors[i]? = some t → t.isOpParameter = true) ∧ m.modelIDToGraphID.lookup i = none

theorem leavesOut_iff {i : Nat} : m.LeavesOut i ↔ ¬ m.Kept i := by
  have hlookup : m.modelIDToGraphID.lookup i = none ↔ ¬ m.Kept i := by
    rw [← Option.not_isSome_iff_eq_none, modelIDToGraphID_eq, Renumber.lookup_isSome_iff]
    simp only [Kept, Bool.not_eq_true']
  constructor
  · exact fun h => hlookup.mp h.2
  · intro h
    refine ⟨fun t ht => ?_, hlookup.mpr h⟩
    by_contra hmark
    exact h ⟨t, ht, Bool.not_eq_true _ ▸ hmark⟩

/-- An accepted operation has been built, and its builder's marks are the ones that are set. -/
theorem addOperation_success
    (h : m.addOperation opType params inputs outputs = .ok (.success, m')) :
    ∃ type op tensors, opType = some type ∧
      (getOpsBuilder type).builder.build params.toVector inputs.toVector outputs.toVector
        m.allTensors = .ok (.ok op, tensors) ∧
      m'.allTensors = markAll ((getOpsBuilder type).builder.marks params.toVector
        inputs.toVector outputs.toVector m.allTensors) m.allTensors := by
  unfold addOperation at h
  split at h
  · cases h
  split at h
  · rename_i hne
    exact absurd h (ok_code_ne hne)
  split at h
  · rename_i hne
    exact absurd h (ok_code_ne hne)
  split at h
  · cases h
  rename_i type
  split at h
  · cases h
  · rename_i ret tensors hop
    cases h
    exact absurd rfl (OpsBuilder.build_error hop)
  · rename_i op tensors hop
    cases h
    exact ⟨type, op, tensors, rfl, hop, OpsBuilder.build_tensors hop⟩

/-- Which parameters an accepted operation has marked. -/
theorem mem_marks_iff {type : OperationType} {inputs outputs params : List Nat} {op : BuiltOp}
    {tensors tensors' : List Tensor}
    (h : (getOpsBuilder type).builder.build params inputs outputs tensors = .ok (.ok op, tensors'))
    {i : Nat} (hi : i ∈ params) {t : Tensor} (ht : tensors[i]? = some t) :
    i ∈ (getOpsBuilder type).builder.marks params inputs outputs tensors ↔
      t.tensorType ∉ type.unmarkedParams := by
  rcases OpsBuilder.build_cases h with ⟨ret, heq, -⟩ | ⟨s, hmarks, ⟨heq, -⟩ | ⟨s', hloop, -⟩⟩
  · cases heq
  · cases heq
  obtain ⟨setter, hlookup⟩ :=
    (OpsBuilder.typeAt_iff ht).mp (OpsBuilder.buildParams_known hloop i hi)
  have hmem : (t.tensorType, setter) ∈ (getOpsBuilder type).builder.paramMap := by
    obtain ⟨before, after, heq, -⟩ := List.lookup_eq_some_iff.mp hlookup
    rw [heq]
    exact List.mem_append_right _ List.mem_cons_self
  rw [hmarks, OpsBuilder.buildParams_marked hloop, and_iff_right hi, OpsBuilder.typeAt_iff ht,
    ← marked_iff_table type _ hmem, OpsBuilder.marksType, hlookup, Bool.or_eq_true,
    decide_eq_true_eq]

/-- **When the parameters of an accepted operation stay out of the graph**: when each has a
type that its builder marks, or was marked before. -/
theorem parameters_leftOut_iff
    (h : m.addOperation opType params inputs outputs = .ok (.success, m')) :
    (∀ i ∈ params.toVector, m'.LeavesOut i) ↔
      ∀ i ∈ params.toVector, ∀ t, m.allTensors[i]? = some t →
        t.isOpParameter = true ∨ t.tensorType ∉ opType.elim [] OperationType.unmarkedParams := by
  obtain ⟨type, op, tensors, rfl, hbuild, htensors⟩ := addOperation_success h
  refine forall₂_congr fun i hi => ?_
  have hkept : m'.Kept i ↔ m.Kept i ∧ i ∉ (getOpsBuilder type).builder.marks params.toVector
      inputs.toVector outputs.toVector m.allTensors := by
    rw [← kept_markAll]
    unfold Kept
    rw [htensors]
  rw [leavesOut_iff, hkept]
  constructor
  · -- An index that is left out and was not marked before has been marked by this call.
    intro hout t ht
    by_cases hmark : t.isOpParameter = true
    · exact Or.inl hmark
    · refine Or.inr ((mem_marks_iff hbuild hi ht).mp ?_)
      by_contra hnot
      exact hout ⟨⟨t, ht, Bool.not_eq_true _ ▸ hmark⟩, hnot⟩
  · rintro hcond ⟨⟨t, ht, hmark⟩, hnot⟩
    rcases hcond t ht with hmarked | htype
    · rw [hmark] at hmarked
      cases hmarked
    · exact hnot ((mem_marks_iff hbuild hi ht).mpr htype)

/-- Three tensors, and a coefficient of the given type with its value. -/
def withParameter (type : TensorType) : List (ModelEnv × Call) :=
  [({}, .edit (.addTensor ⟨some .float32, .array [1], none, some .tensor⟩)),
    ({}, .edit (.addTensor ⟨some .float32, .array [1], none, some .tensor⟩)),
    ({}, .edit (.addTensor ⟨some .float32, .array [1], none, some .tensor⟩)),
    ({}, .edit (.addTensor ⟨some .float32, .array [1], none, some .tensor⟩)),
    ({}, .edit (.setTensorType 3 type)),
    ({}, .edit (.setTensorValue 3 (some [0, 0, 128, 63])))]

theorem parameters_leftOut_iff_leakyRelu : ∃ m m' : InnerModel,
    Run.exec step {} (withParameter .leakyReluNegativeSlope) = .ok m ∧
      m.addOperation (some .leakyRelu) (.array [3]) (.array [0]) (.array [1]) =
        .ok (.success, m') ∧ m'.LeavesOut 3 := by
  obtain ⟨m, hm, m', hadd⟩ : ∃ m : InnerModel,
      Run.exec step {} (withParameter .leakyReluNegativeSlope) = .ok m ∧
        ∃ m', m.addOperation (some .leakyRelu) (.array [3]) (.array [0]) (.array [1]) =
          .ok (.success, m') := ⟨_, rfl, _, rfl⟩
  have hout := (parameters_leftOut_iff hadd).mpr fun i _ t _ => Or.inr List.not_mem_nil
  exact ⟨m, m', hm, hadd, hout 3 List.mem_cons_self⟩

/-- The coefficient of a `ReduceMean` becomes a tensor of the graph. -/
theorem reduceMean_coeff_kept : ∃ m m' : InnerModel,
    Run.exec step {} (withParameter .reduceMeanCoeff) = .ok m ∧
      m.addOperation (some .reduceMean) (.array [3]) (.array [0, 1]) (.array [2]) =
        .ok (.success, m') ∧ ¬ m'.LeavesOut 3 := by
  refine ⟨_, _, rfl, rfl, fun hout => ?_⟩
  have hnone := hout.2
  revert hnone
  decide

end InnerModel

end NNRt
