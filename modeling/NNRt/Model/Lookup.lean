import NNRt.Lib.Renumber
import NNRt.Model.Calls
import NNRt.Ops.Marks

/-!
# The lookups of `Build`

`Build` renumbers the tensors that are not operation parameters and looks up
every index of the model's inputs and outputs and of its operations. The lookups
succeed as long as no such tensor is marked as a parameter, and nothing but the
order and the arguments of the calls sees to that: `ValidateInputAndOutput`
looks at the type of a tensor, which `SetTensorType` changes, and not at its
mark, which a failed `AddOperation` leaves behind.

- `effect_of_perform`: what one edit does to the marks and to the indices that
  are looked up.
- `lookupsFound_iff`: **the lookups all succeed exactly when every edit of the
  run was `Clean`.**
-/

namespace NNRt

namespace InnerModel

/-- The indices that `Build` looks up. -/
def lookups (m : InnerModel) : List Nat :=
  m.inputIndices ++ m.outputIndices ++ m.ops.flatMap fun op => op.inputsIndex ++ op.outputsIndex

/-- `modelIDToGraphID`, which does not depend on the allocations. -/
def modelIDToGraphID (m : InnerModel) : List (Nat × Nat) :=
  (addTensorsLoop {} 0 0 m.allTensors).2

/-- Every lookup finds its key. -/
def LookupsFound (m : InnerModel) : Prop :=
  ∀ i ∈ m.lookups, (m.modelIDToGraphID.lookup i).isSome

/-- The tensor of an index is there and no operation parameter. -/
def Kept (m : InnerModel) (i : Nat) : Prop :=
  ∃ t, m.allTensors[i]? = some t ∧ t.isOpParameter = false

/-- The loop numbers the tensors that are no parameters. -/
theorem addTensorsLoop_snd (env : ModelEnv) (i n : Nat) (tensors : List Tensor) :
    (addTensorsLoop env i n tensors).2 = Renumber.pairs (fun t => !t.isOpParameter) i n tensors := by
  induction tensors generalizing i n with
  | nil => rfl
  | cons t tensors ih =>
    by_cases ht : t.isOpParameter
    · simp [addTensorsLoop, Renumber.pairs, ht, ih]
    · simp [addTensorsLoop, Renumber.pairs, ht, ih]

theorem modelIDToGraphID_eq (m : InnerModel) :
    m.modelIDToGraphID = Renumber.pairs (fun t => !t.isOpParameter) 0 0 m.allTensors :=
  addTensorsLoop_snd {} 0 0 m.allTensors

/-- The kept tensors are the ones that are found. -/
theorem lookupsFound_iff_kept {m : InnerModel} : m.LookupsFound ↔ ∀ i ∈ m.lookups, m.Kept i := by
  have hkey : ∀ i, (m.modelIDToGraphID.lookup i).isSome ↔ m.Kept i := by
    intro i
    rw [modelIDToGraphID_eq, Renumber.lookup_isSome_iff]
    simp [Kept]
  constructor
  · intro h i hi
    exact (hkey i).mp (h i hi)
  · intro h i hi
    exact (hkey i).mpr (h i hi)

/-! ## What one edit marks and names -/

/-- The tensors an edit marks as parameters. -/
def marks (m : InnerModel) : Edit → List Nat
  | .addOperation opType params inputs outputs =>
    if m.isBuild ∨ m.validateInputAndOutput inputs outputs ≠ .success
        ∨ m.validateTensorArray params ≠ .success then []
    else
      match opType with
      | none => []
      | some opType => (getOpsBuilder opType).builder.marks params.toVector inputs.toVector
          outputs.toVector m.allTensors
  | _ => []

/-- The indices an edit names as inputs or outputs. -/
def names : Edit → List Nat
  | .addOperation _ _ inputs outputs => inputs.toVector ++ outputs.toVector
  | .specifyInputsAndOutputs inputs outputs => inputs.toVector ++ outputs.toVector
  | _ => []

/-- An edit is accepted. -/
def Accepts (m : InnerModel) (call : ModelEnv × Edit) : Prop :=
  ∃ m', call.2.perform m call.1 = .ok (.success, m')

/-- An edit that marks no tensor in use, and that is refused unless the tensors
it names are unmarked and it does not mark them itself. -/
def Clean (m : InnerModel) (call : ModelEnv × Edit) : Prop :=
  (∀ i ∈ m.marks call.2, i ∉ m.lookups) ∧
    (m.Accepts call → ∀ i ∈ names call.2, m.Kept i ∧ i ∉ m.marks call.2)

/-! ## The step lemmas -/

/-- Replacing a tensor by one with the same mark keeps the same tensors. -/
theorem kept_set {m : InnerModel} {index i : Nat} {t t' : Tensor}
    (ht : m.allTensors[index]? = some t) (hmark : t'.isOpParameter = t.isOpParameter) :
    Kept { m with allTensors := m.allTensors.set index t' } i ↔ m.Kept i := by
  unfold Kept
  rw [List.getElem?_set]
  by_cases hi : index = i
  · subst hi
    have hlt : index < m.allTensors.length := (List.getElem?_eq_some_iff.mp ht).1
    rw [if_pos rfl, if_pos hlt, ht]
    simp [hmark]
  · simp [hi]

/-- Appending a tensor changes nothing for the earlier ones. -/
theorem kept_pushTensor {m : InnerModel} {i : Nat} {t : Tensor} (hi : i < m.allTensors.length) :
    (m.pushTensor t).Kept i ↔ m.Kept i := by
  unfold Kept pushTensor
  rw [List.getElem?_append_left hi]

theorem kept_markAll {m : InnerModel} {indices : List Nat} {i : Nat} :
    Kept { m with allTensors := markAll indices m.allTensors } i ↔ m.Kept i ∧ i ∉ indices := by
  unfold Kept
  simp only [getElem?_markAll]
  cases m.allTensors[i]? with
  | none => simp
  | some t =>
    by_cases hi : i ∈ indices
    · simp [hi, NNTensor.identifyOpParameter]
    · simp [hi]

theorem setQuantParam_isOpParameter (t : Tensor) (quantParam : Option QuantParams) :
    (t.setQuantParam quantParam).2.isOpParameter = t.isOpParameter := by
  unfold NNTensor.setQuantParam
  split
  · rfl
  · split
    · split <;> rfl
    · rfl

/-- What a call of `AddOperation` that does not fault does. -/
theorem addOperation_cases {m m' : InnerModel} {opType : Option OperationType}
    {params inputs outputs : CArray Nat} {ret : ReturnCode}
    (h : m.addOperation opType params inputs outputs = .ok (ret, m')) :
    ∃ ops, m' = { m with
        allTensors := markAll (m.marks (.addOperation opType params inputs outputs)) m.allTensors
        ops := m.ops ++ ops } ∧
      (ret ≠ .success ∧ ops = [] ∨
        ret = .success ∧ m.validateInputAndOutput inputs outputs = .success ∧
          ∃ op type, ops = [op] ∧ op.inputsIndex = inputs.toVector ∧
            op.outputsIndex = outputs.toVector ∧ opType = some type ∧
            ∃ tensors, (getOpsBuilder type).builder.build params.toVector inputs.toVector
              outputs.toVector m.allTensors = .ok (.ok op, tensors)) := by
  unfold addOperation at h
  simp only [marks]
  have hsame : ∀ ret' : ReturnCode, ret' ≠ .success →
      (Except.ok (ret', m) : Except Fault _) = .ok (ret, m') → ret ≠ .success ∧ m' = m := by
    rintro ret' hne heq
    cases heq
    exact ⟨hne, rfl⟩
  split at h
  · rename_i hbuild
    obtain ⟨hne, rfl⟩ := hsame .operationForbidden nofun h
    exact ⟨[], by simp [hbuild], Or.inl ⟨hne, rfl⟩⟩
  rename_i hbuild
  split at h
  · rename_i hio
    obtain ⟨hne, rfl⟩ := hsame _ hio h
    exact ⟨[], by simp [hio], Or.inl ⟨hne, rfl⟩⟩
  rename_i hio
  split at h
  · rename_i hparams
    obtain ⟨hne, rfl⟩ := hsame _ hparams h
    exact ⟨[], by simp [hparams], Or.inl ⟨hne, rfl⟩⟩
  rename_i hparams
  -- The builder is asked, and marks tensors whether or not it succeeds.
  rw [if_neg (by simp [hbuild, not_not.mp hio, not_not.mp hparams])]
  cases opType with
  | none =>
    obtain ⟨hne, rfl⟩ := hsame .invalidParameter nofun h
    exact ⟨[], by simp, Or.inl ⟨hne, rfl⟩⟩
  | some type =>
    dsimp only at h ⊢
    split at h
    · cases h
    · rename_i ret' tensors hop
      cases h
      have htensors := OpsBuilder.build_tensors hop
      refine ⟨[], by rw [htensors, List.append_nil], Or.inl ⟨?_, rfl⟩⟩
      exact OpsBuilder.build_error hop
    · rename_i op tensors hop
      cases h
      have htensors := OpsBuilder.build_tensors hop
      obtain ⟨hinputs, houtputs⟩ := OpsBuilder.build_indices hop
      exact ⟨[op], by rw [htensors], Or.inr ⟨rfl, not_not.mp hio, op, type, rfl, hinputs, houtputs,
        rfl, tensors, hop⟩⟩

/-- `ValidateInputAndOutput` accepts indices of tensors only, and at least one input. -/
theorem of_validateInputAndOutput {m : InnerModel} {inputs outputs : CArray Nat}
    (h : m.validateInputAndOutput inputs outputs = .success) :
    inputs.toVector ≠ [] ∧ ∀ i ∈ inputs.toVector ++ outputs.toVector, i < m.allTensors.length := by
  have harray : ∀ {indices : CArray Nat}, m.validateTensorArray indices = .success →
      indices.validate = .success ∧ ∀ i ∈ indices.toVector, i < m.allTensors.length := by
    intro indices harray
    unfold validateTensorArray at harray
    split at harray
    · contradiction
    split at harray
    · cases harray
    · rename_i hvalid hrange
      exact ⟨not_not.mp hvalid, by simpa using hrange⟩
  unfold validateInputAndOutput at h
  split at h
  · cases h
  rename_i hcount
  split at h
  · cases h
  split at h
  · contradiction
  rename_i hinputs
  split at h
  · contradiction
  rename_i houtputs
  obtain ⟨hvalid, hinputs⟩ := harray (not_not.mp hinputs)
  obtain ⟨-, houtputs⟩ := harray (not_not.mp houtputs)
  constructor
  · intro hnil
    rw [CArray.count_eq_of_validate hvalid, hnil] at hcount
    exact hcount (Or.inl rfl)
  · intro i hi
    rcases List.mem_append.mp hi with hi | hi
    · exact hinputs i hi
    · exact houtputs i hi

/-- What an edit with a code leaves of the marks and the indices. -/
structure Effect (m : InnerModel) (e : Edit) (ret : ReturnCode) (m' : InnerModel) : Prop where
  length_le : m.allTensors.length ≤ m'.allTensors.length
  kept_iff : ∀ i < m.allTensors.length, m'.Kept i ↔ m.Kept i ∧ i ∉ m.marks e
  mem_lookups_iff : ∀ i, i ∈ m'.lookups ↔ i ∈ m.lookups ∨ ret = .success ∧ i ∈ names e
  names_lt : ret = .success → ∀ i ∈ names e, i < m.allTensors.length

/-- What holds of every model that edits lead to. -/
structure Sound (m : InnerModel) : Prop where
  lookups_lt : ∀ i ∈ m.lookups, i < m.allTensors.length
  /-- The indices are assigned together with the tensors. -/
  unspecified : m.inputTensors = [] → m.inputIndices = [] ∧ m.outputIndices = []
  /-- `GetPrimitive` uses no `at`. -/
  primitive : ∀ op ∈ m.ops, op.primitive ≠ .error .outOfRange

theorem sound_empty : Sound {} where
  lookups_lt i hi := by simp [lookups] at hi
  unspecified _ := ⟨rfl, rfl⟩
  primitive op hop := by simp at hop

/-- Reading a number does not use `at`. -/
theorem uint64_ne_outOfRange (t : Tensor) : t.uint64 ≠ .error .outOfRange := by
  unfold Tensor.uint64 Tensor.number
  cases t.buffer with
  | none => simp
  | some bytes =>
    dsimp only
    split <;> simp

theorem primitive_ne_outOfRange (type : OperationType)
    (s : (getOpsBuilder type).Members) :
    (getOpsBuilder type).builder.primitive s ≠ .error .outOfRange := by
  cases type
  case scale =>
    show Ops.scaleBuilder.primitive s ≠ .error .outOfRange
    have hread := uint64_ne_outOfRange
    unfold Ops.scaleBuilder
    dsimp only
    split
    · rename_i axis _
      cases haxis : axis.uint64 with
      | error fault =>
        rintro heq
        cases heq
        exact hread axis haxis
      | ok value => simp
    · simp
  case quantDtypeCast =>
    show Ops.quantDTypeCastBuilder.primitive s ≠ .error .outOfRange
    have hread := uint64_ne_outOfRange
    unfold Ops.quantDTypeCastBuilder
    dsimp only
    split
    · rename_i srcT dstT _ _
      cases hsrc : srcT.uint64 with
      | error fault =>
        rintro heq
        cases heq
        exact hread srcT hsrc
      | ok value =>
        cases hdst : dstT.uint64 with
        | error fault =>
          rintro heq
          cases heq
          exact hread dstT hdst
        | ok value' => simp
    · simp
  all_goals exact nofun

/-- An edit that replaces a tensor by one with the same mark. -/
theorem effect_set {m : InnerModel} {e : Edit} {ret : ReturnCode} {index : Nat} {t t' : Tensor}
    (ht : m.allTensors[index]? = some t) (hmark : t'.isOpParameter = t.isOpParameter)
    (hmarks : m.marks e = []) (hnames : names e = []) :
    Effect m e ret { m with allTensors := m.allTensors.set index t' } where
  length_le := by simp
  kept_iff i _ := by
    rw [kept_set ht hmark, hmarks]
    simp
  mem_lookups_iff i := by
    rw [hnames]
    simp [lookups]
  names_lt _ i hi := by
    rw [hnames] at hi
    cases hi

/-- An edit that leaves the model as it was, and names nothing or fails. -/
theorem effect_same {m : InnerModel} {e : Edit} {ret : ReturnCode}
    (hmarks : m.marks e = []) (hnames : ret = .success → names e = []) : Effect m e ret m where
  length_le := Nat.le_refl _
  kept_iff i _ := by
    rw [hmarks]
    simp
  mem_lookups_iff i := by
    constructor
    · exact Or.inl
    · rintro (hi | ⟨hret, hi⟩)
      · exact hi
      · rw [hnames hret] at hi
        cases hi
  names_lt hret i hi := by
    rw [hnames hret] at hi
    cases hi

/-- An edit that appends a tensor. -/
theorem effect_pushTensor {m : InnerModel} {e : Edit} {ret : ReturnCode} {t : Tensor}
    (hmarks : m.marks e = []) (hnames : names e = []) : Effect m e ret (m.pushTensor t) where
  length_le := by simp [pushTensor]
  kept_iff i hi := by
    rw [kept_pushTensor hi, hmarks]
    simp
  mem_lookups_iff i := by
    rw [hnames]
    simp [lookups, pushTensor]
  names_lt _ i hi := by
    rw [hnames] at hi
    cases hi

/-- An edit of one tensor marks no tensor, and names none. -/
theorem effect_of_tensorEffect {m m' : InnerModel} {e : Edit} {ret : ReturnCode}
    (h : Edit.TensorEffect m e ret m') : Effect m e ret m' := by
  cases h with
  | same he =>
    cases e with
    | addOperation | specifyInputsAndOutputs => exact he.elim
    | _ => exact effect_same rfl fun _ => rfl
  | addTensor hbuilt => exact effect_pushTensor rfl rfl
  | addTensorDesc hbuilt => exact effect_pushTensor rfl rfl
  | setTensorType ht => exact effect_set ht rfl rfl rfl
  | setTensorQuantParam ht => exact effect_set ht (setQuantParam_isOpParameter _ _) rfl rfl
  | setTensorValue ht => exact effect_set ht rfl rfl rfl

/-- **Every edit has its effect**, whether it succeeds or fails. -/
theorem effect_of_perform {m m' : InnerModel} {env : ModelEnv} {e : Edit} {ret : ReturnCode}
    (hsound : Sound m) (h : e.perform m env = .ok (ret, m')) : Effect m e ret m' := by
  rcases Edit.perform_cases h with
    heffect | ⟨opType, params, inputs, outputs, rfl⟩ | ⟨inputs, outputs, rfl⟩
  · exact effect_of_tensorEffect heffect
  · obtain ⟨ops, rfl, hops⟩ := addOperation_cases h
    have hkept : ∀ i, Kept { m with
        allTensors := markAll (m.marks (.addOperation opType params inputs outputs)) m.allTensors
        ops := m.ops ++ ops } i ↔
          m.Kept i ∧ i ∉ m.marks (.addOperation opType params inputs outputs) :=
      fun i => kept_markAll (m := m)
    refine ⟨by simp, fun i _ => hkept i, ?_, ?_⟩
    · intro i
      rcases hops with ⟨hne, rfl⟩ | ⟨hret, -, op, type, rfl, hinputs, houtputs, -⟩
      · simp [lookups, hne]
      · simp only [lookups, List.flatMap_append, List.mem_append, List.flatMap_cons,
          List.flatMap_nil, hinputs, houtputs, hret, names, true_and]
        grind
    · rintro hret
      rcases hops with ⟨hne, -⟩ | ⟨-, hvalid, -⟩
      · exact absurd hret hne
      · exact (of_validateInputAndOutput hvalid).2
  · rcases Edit.specifyInputsAndOutputs_cases (Except.ok.inj h) with
      ⟨hret, rfl⟩ | ⟨rfl, hnil, hvalid, rfl⟩
    · exact effect_same rfl fun hsuccess => absurd hsuccess hret
    · -- Nothing was specified before, so nothing is lost.
      obtain ⟨hin, hout⟩ := hsound.unspecified hnil
      refine ⟨Nat.le_refl _, fun i _ => ?_, fun i => ?_, fun _ => ?_⟩
      · simp [Kept, marks]
      · simp only [lookups, names, hin, hout, List.nil_append, List.mem_append, true_and]
        grind
      · exact (of_validateInputAndOutput hvalid).2

/-- Edits keep `Sound`. -/
theorem sound_of_perform {m m' : InnerModel} {env : ModelEnv} {e : Edit} {ret : ReturnCode}
    (hsound : Sound m) (h : e.perform m env = .ok (ret, m')) : Sound m' := by
  have heffect : Effect m e ret m' := effect_of_perform hsound h
  have hlookups : ∀ i ∈ m'.lookups, i < m'.allTensors.length := by
    intro i hi
    refine Nat.lt_of_lt_of_le ?_ heffect.length_le
    rcases (heffect.mem_lookups_iff i).mp hi with hi | ⟨hret, hi⟩
    · exact hsound.lookups_lt i hi
    · exact heffect.names_lt hret i hi
  have hsame : m'.inputTensors = m.inputTensors → m'.inputIndices = m.inputIndices →
      m'.outputIndices = m.outputIndices → m'.ops = m.ops → Sound m' := by
    intro htensors hin hout hops
    refine ⟨hlookups, ?_, ?_⟩
    · rw [htensors, hin, hout]
      exact hsound.unspecified
    · rw [hops]
      exact hsound.primitive
  rcases Edit.perform_cases h with
    hedit | ⟨opType, params, inputs, outputs, rfl⟩ | ⟨inputs, outputs, rfl⟩
  · cases hedit <;> exact hsame rfl rfl rfl rfl
  · obtain ⟨ops, rfl, hops⟩ := addOperation_cases h
    refine ⟨hlookups, hsound.unspecified, ?_⟩
    intro op hop
    rcases List.mem_append.mp hop with hop | hop
    · exact hsound.primitive op hop
    · rcases hops with ⟨-, rfl⟩ | ⟨-, -, op', type, rfl, -, -, -, tensors, hbuild⟩
      · cases hop
      · rw [List.mem_singleton] at hop
        subst hop
        obtain ⟨s, quantType, -, rfl⟩ := OpsBuilder.build_ok hbuild
        exact primitive_ne_outOfRange type s
  · rcases Edit.specifyInputsAndOutputs_cases (Except.ok.inj h) with
      ⟨-, rfl⟩ | ⟨-, -, hvalid, rfl⟩
    · exact hsound
    · refine ⟨hlookups, fun hnil => ?_, hsound.primitive⟩
      -- An accepted call has at least one input, so the tensors are not empty.
      have hne := (of_validateInputAndOutput hvalid).1
      simp only [List.append_eq_nil_iff, List.map_eq_nil_iff] at hnil
      exact absurd hnil.2 hne

/-! ## Runs -/

/-- An edit keeps all the lookups exactly if it is clean. -/
theorem kept_iff_clean {m m' : InnerModel} {call : ModelEnv × Edit} (hsound : Sound m)
    (hkept : ∀ i ∈ m.lookups, m.Kept i) (h : m.edit call = .ok m') :
    (∀ i ∈ m'.lookups, m'.Kept i) ↔ m.Clean call := by
  obtain ⟨ret, hperform⟩ := edit_eq_ok h
  have heffect := effect_of_perform hsound hperform
  have haccepts : m.Accepts call ↔ ret = .success := by
    constructor
    · rintro ⟨m₁, h₁⟩
      rw [hperform] at h₁
      cases h₁
      rfl
    · rintro rfl
      exact ⟨m', hperform⟩
  constructor
  · intro hkept'
    constructor
    · intro i hmark hi
      have hlt := hsound.lookups_lt i hi
      have hi' := hkept' i ((heffect.mem_lookups_iff i).mpr (Or.inl hi))
      exact ((heffect.kept_iff i hlt).mp hi').2 hmark
    · intro hacc i hi
      have hret := haccepts.mp hacc
      have hi' := hkept' i ((heffect.mem_lookups_iff i).mpr (Or.inr ⟨hret, hi⟩))
      exact (heffect.kept_iff i (heffect.names_lt hret i hi)).mp hi'
  · rintro ⟨hmarks, hnames⟩ i hi
    rcases (heffect.mem_lookups_iff i).mp hi with hi | ⟨hret, hi⟩
    · refine (heffect.kept_iff i (hsound.lookups_lt i hi)).mpr ⟨hkept i hi, ?_⟩
      exact fun hmark => hmarks i hmark hi
    · refine (heffect.kept_iff i (heffect.names_lt hret i hi)).mpr ?_
      exact hnames (haccepts.mpr hret) i hi

/-- A mark is never taken back, nor is an index. -/
theorem not_kept_of_edit {m m' : InnerModel} {call : ModelEnv × Edit} (hsound : Sound m)
    (hlost : ¬ ∀ i ∈ m.lookups, m.Kept i) (h : m.edit call = .ok m') :
    ¬ ∀ i ∈ m'.lookups, m'.Kept i := by
  obtain ⟨ret, hperform⟩ := edit_eq_ok h
  have heffect := effect_of_perform hsound hperform
  intro hkept'
  apply hlost
  intro i hi
  have hi' := hkept' i ((heffect.mem_lookups_iff i).mpr (Or.inl hi))
  exact ((heffect.kept_iff i (hsound.lookups_lt i hi)).mp hi').1

/-- Lookups that are all found do not throw. -/
theorem mapM_graphIDAt {ids : List (Nat × Nat)} {indices : List Nat}
    (h : ∀ i ∈ indices, (ids.lookup i).isSome) : ∃ found, indices.mapM (graphIDAt ids) = .ok found := by
  refine ⟨_, mapM_eq_ok (g := fun i => (ids.lookup i).getD 0) fun i hi => ?_⟩
  obtain ⟨k, hk⟩ := Option.isSome_iff_exists.mp (h i hi)
  simp [graphIDAt, hk]

theorem addNodesLoop_ne_outOfRange (env : ModelEnv) {ids : List (Nat × Nat)} {ops : List BuiltOp}
    (hfound : ∀ op ∈ ops, ∀ i ∈ op.inputsIndex ++ op.outputsIndex, (ids.lookup i).isSome)
    (hprim : ∀ op ∈ ops, op.primitive ≠ .error .outOfRange) (i : Nat) (nodes : List Node) :
    addNodesLoop env ids i nodes ops ≠ .error .outOfRange := by
  induction ops generalizing i nodes with
  | nil => nofun
  | cons op ops ih =>
    have hop := hfound op List.mem_cons_self
    obtain ⟨inputs, hinputs⟩ := mapM_graphIDAt fun i hi => hop i (List.mem_append_left _ hi)
    obtain ⟨outputs, houtputs⟩ := mapM_graphIDAt fun i hi => hop i (List.mem_append_right _ hi)
    have hrest := ih (fun op hmem => hfound op (List.mem_cons_of_mem _ hmem))
      (fun op hmem => hprim op (List.mem_cons_of_mem _ hmem))
    rw [addNodesLoop]
    split
    · nofun
    simp only [hinputs, houtputs]
    cases hp : op.primitive with
    | error fault =>
      rintro heq
      cases heq
      exact hprim op List.mem_cons_self hp
    | ok primitive =>
      cases primitive with
      | none => nofun
      | some primitive =>
        dsimp only
        split
        · nofun
        · exact hrest _ _

/-- `Build` does not throw `std::out_of_range` when every lookup finds its key. -/
theorem build_ne_outOfRange {m : InnerModel} (hsound : Sound m) (hfound : m.LookupsFound)
    (env : ModelEnv) : m.build env ≠ .error .outOfRange := by
  have hids : (addTensorsLoop env 0 0 m.allTensors).2 = m.modelIDToGraphID := by
    rw [addTensorsLoop_snd, modelIDToGraphID_eq]
  have hin : ∀ i ∈ m.inputIndices, (m.modelIDToGraphID.lookup i).isSome := fun i hi =>
    hfound i (List.mem_append_left _ (List.mem_append_left _ hi))
  have hout : ∀ i ∈ m.outputIndices, (m.modelIDToGraphID.lookup i).isSome := fun i hi =>
    hfound i (List.mem_append_left _ (List.mem_append_right _ hi))
  have hops : ∀ op ∈ m.ops, ∀ i ∈ op.inputsIndex ++ op.outputsIndex,
      (m.modelIDToGraphID.lookup i).isSome := fun op hop i hi =>
    hfound i (List.mem_append_right _ (List.mem_flatMap.mpr ⟨op, hop, hi⟩))
  obtain ⟨inputs, hinputs⟩ := mapM_graphIDAt hin
  obtain ⟨outputs, houtputs⟩ := mapM_graphIDAt hout
  have hnodes := addNodesLoop_ne_outOfRange env hops hsound.primitive 0 []
  have hfill : m.fillLiteGraph env ≠ .error .outOfRange := by
    unfold fillLiteGraph addTensorsToLiteGraph
    simp only [hids, hinputs, houtputs, ok_bind, pure_eq_ok]
    cases hloop : addNodesLoop env m.modelIDToGraphID 0 [] m.ops with
    | error fault =>
      rintro heq
      cases heq
      exact hnodes hloop
    | ok p =>
      simp only [ok_bind]
      split
      · nofun
      · split <;> nofun
  unfold build
  split
  · nofun
  split
  · nofun
  split
  · nofun
  split
  · nofun
  split
  · nofun
  split
  · rename_i fault hfault
    rintro heq
    cases heq
    exact hfill hfault
  · nofun

/-- **The lookups of `Build` all find their key exactly when every edit of the
run was clean**, and then `Build` does not throw. -/
theorem lookupsFound_iff {calls : List (ModelEnv × Edit)} {m : InnerModel}
    (h : Run.exec edit {} calls = .ok m) :
    (m.LookupsFound ↔ Run.Meets edit Clean {} calls) ∧
      (m.LookupsFound → ∀ env, m.build env ≠ .error .outOfRange) := by
  have hstep : ∀ (m : InnerModel) (call : ModelEnv × Edit) (m' : InnerModel), Sound m →
      m.edit call = .ok m' → Sound m' := by
    intro m call m' hsound hedit
    obtain ⟨ret, hperform⟩ := edit_eq_ok hedit
    exact sound_of_perform hsound hperform
  constructor
  · rw [lookupsFound_iff_kept]
    exact Run.exec_iff_meets (I := Sound) (P := fun m => ∀ i ∈ m.lookups, m.Kept i) hstep
      (fun m call m' hsound hkept => kept_iff_clean hsound hkept)
      (fun m call m' hsound hlost => not_kept_of_edit hsound hlost)
      sound_empty (fun i hi => by simp [lookups] at hi) h
  · intro hfound
    exact build_ne_outOfRange (Run.exec_invariant hstep sound_empty h) hfound

/-- Two `float` tensors with one element. -/
def twoTensors : List (ModelEnv × Edit) :=
  [({}, .addTensor ⟨some .float32, .array [1], none, some .tensor⟩),
    ({}, .addTensor ⟨some .float32, .array [1], none, some .tensor⟩)]

/-- `Abs` of the first tensor, as the whole model. -/
def absModel : List (ModelEnv × Edit) :=
  [({}, .addOperation (some .abs) (.null 0) (.array [0]) (.array [1])),
    ({}, .specifyInputsAndOutputs (.array [0]) (.array [1]))]

/-- A `Split` that names its input as a parameter too. -/
def badSplit : List (ModelEnv × Edit) :=
  [({}, .addOperation (some .split) (.array [0]) (.array [0]) (.array [1]))]

theorem lookupsFound_iff_absModel : ∃ m, Run.exec edit {} (twoTensors ++ absModel) = .ok m ∧
    (m.LookupsFound ↔ Run.Meets edit Clean {} (twoTensors ++ absModel)) ∧
      (m.LookupsFound → ∀ env, m.build env ≠ .error .outOfRange) :=
  ⟨_, rfl, lookupsFound_iff rfl⟩

/-- The refused `Split` leaves its mark, and `Build` throws. -/
theorem badSplit_throws : ∃ m,
    Run.exec edit {} (twoTensors ++ badSplit ++ absModel) = .ok m ∧
      ¬ m.LookupsFound ∧ m.build {} = .error .outOfRange := by
  refine ⟨_, rfl, ?_, rfl⟩
  intro hfound
  exact absurd (hfound 0 (by decide)) (by decide)

end InnerModel

end NNRt
