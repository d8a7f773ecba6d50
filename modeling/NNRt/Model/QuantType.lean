import NNRt.Model.Lookup

/-!
# Quantisation types of nodes

A builder looks at the first output once, while its operation is added, and most
builders do not look at all; a tensor takes quantisation parameters until the
model is built, and loses them to a refused `SetTensorQuantParam`.

- `step_ops`: an operation has the quantisation type of the moment it is added.
- `build_quantTypes`: a node has the quantisation type of its operation.
- `quantTypesAgree_iff`: **a built model's nodes agree with its tensors exactly
  if every operation's builder has found the first output as it is in the end.**
-/

namespace NNRt

/-- Does the builder of an operation call `SetQuantType`? -/
def OperationType.setsQuantType (opType : OperationType) : Prop :=
  (getOpsBuilder opType).builder.setsQuantType ≠ .never

instance (opType : OperationType) : Decidable opType.setsQuantType :=
  inferInstanceAs (Decidable (_ ≠ _))

/-- `IsQuantTensor` of the first output. -/
def isFirstOutputQuant (outputs : List Nat) (tensors : List Tensor) : Bool :=
  (outputs.head?.bind (tensors[·]?)).any NNTensor.isQuantTensor

/-- An operation that was added, and what its first output was like then. -/
structure Addition where
  opType : OperationType
  outputs : List Nat
  isQuant : Bool

/-- An operation is the one of an addition. -/
structure BuiltOp.RecordedBy (op : BuiltOp) (a : Addition) : Prop where
  outputsIndex : op.outputsIndex = a.outputs
  quantType : op.quantType = .all ↔ a.opType.setsQuantType ∧ a.isQuant = true

namespace InnerModel

/-- Each node of the built model has the type `QUANT_ALL` if and only if the first
output of its operation has quantisation parameters. -/
def QuantTypesAgree (m : InnerModel) : Prop :=
  ∃ graph, m.liteGraph = some graph ∧
    List.Forall₂ (fun op node => node.quantType = NNToMS.transformQuantType .all ↔
      isFirstOutputQuant op.outputsIndex m.allTensors = true) m.ops graph.allNodes

/-- What a call adds. -/
def additionOf (m : InnerModel) : ModelEnv × Call → List Addition
  | (_, .edit (.addOperation (some opType) params inputs outputs)) =>
    match m.addOperation (some opType) params inputs outputs with
    | .ok (.success, _) =>
      [⟨opType, outputs.toVector, isFirstOutputQuant outputs.toVector m.allTensors⟩]
    | _ => []
  | _ => []

/-- What the calls of a run add. -/
def additionsIn (m : InnerModel) : List (ModelEnv × Call) → List Addition
  | [] => []
  | call :: calls =>
    m.additionOf call ++
      match m.step call with
      | .error _ => []
      | .ok m => additionsIn m calls

/-! ## Adding operations -/

/-- Marks do not change what is quantised. -/
theorem isFirstOutputQuant_markAll (indices outputs : List Nat) (tensors : List Tensor) :
    isFirstOutputQuant outputs (markAll indices tensors) = isFirstOutputQuant outputs tensors := by
  unfold isFirstOutputQuant
  cases outputs.head? with
  | none => rfl
  | some i =>
    simp only [Option.bind_some, getElem?_markAll]
    cases tensors[i]? with
    | none => rfl
    | some t =>
      show NNTensor.isQuantTensor (if i ∈ indices then t.identifyOpParameter else t) =
        NNTensor.isQuantTensor t
      split <;> rfl

/-- `m_quantType` is `QUANT_ALL` if the builder has looked and the first output
is quantised. -/
theorem quantType_eq_all_iff {σ : Type} {b : OpsBuilder σ} {outputs : List Nat}
    {tensors : List Tensor} {quantType : OpsQuantType}
    (h : b.quantType outputs tensors = .ok quantType) :
    quantType = .all ↔ b.setsQuantType ≠ .never ∧ isFirstOutputQuant outputs tensors = true := by
  unfold OpsBuilder.quantType quantTypeOf at h
  split at h
  · rename_i hnever
    cases h
    exact iff_of_false nofun fun hboth => hboth.1 hnever
  · rename_i hnever
    split at h
    · cases h
    · rename_i t ht
      have hfirst : isFirstOutputQuant outputs tensors = t.isQuantTensor := by
        unfold isFirstOutputQuant
        rw [ht]
        rfl
      rw [hfirst]
      split at h
      · rename_i hquant
        cases h
        exact iff_of_true rfl ⟨hnever, hquant⟩
      · rename_i hquant
        cases h
        exact iff_of_false nofun fun hboth => hquant hboth.2

/-- `AddOperation` appends the operation it adds. -/
theorem addOperation_ops {m m' : InnerModel} {opType : Option OperationType}
    {params inputs outputs : CArray Nat} {ret : ReturnCode} (env : ModelEnv)
    (h : m.addOperation opType params inputs outputs = .ok (ret, m')) :
    ∃ ops, m'.ops = m.ops ++ ops ∧ List.Forall₂ BuiltOp.RecordedBy ops
      (m.additionOf (env, .edit (.addOperation opType params inputs outputs))) := by
  obtain ⟨ops, rfl, ⟨hne, rfl⟩ | ⟨rfl, -, op, type, rfl, -, houtputs, rfl, tensors, hop⟩⟩ :=
    addOperation_cases h
  · refine ⟨[], rfl, ?_⟩
    cases opType with
    | none => exact List.Forall₂.nil
    | some type =>
      have hnone : m.additionOf (env, .edit (.addOperation (some type) params inputs outputs)) =
          [] := by
        unfold additionOf
        dsimp only
        rw [h]
        cases ret <;> first | exact absurd rfl hne | rfl
      rw [hnone]
      exact List.Forall₂.nil
  · have hone : m.additionOf (env, .edit (.addOperation (some type) params inputs outputs)) =
        [⟨type, outputs.toVector, isFirstOutputQuant outputs.toVector m.allTensors⟩] := by
      unfold additionOf
      dsimp only
      rw [h]
    rw [hone]
    refine ⟨[op], rfl, List.Forall₂.cons ⟨houtputs, ?_⟩ List.Forall₂.nil⟩
    -- The builder has looked at the tensors as its own marks leave them.
    have hmarks := OpsBuilder.build_tensors hop
    obtain ⟨s, quantType, hquant, rfl⟩ := OpsBuilder.build_ok hop
    rw [hmarks] at hquant
    have hiff := quantType_eq_all_iff hquant
    rw [isFirstOutputQuant_markAll] at hiff
    exact hiff

/-- Every other edit leaves the operations. -/
theorem edit_ops {m m' : InnerModel} {env : ModelEnv} {e : Edit} {ret : ReturnCode}
    (he : ∀ opType params inputs outputs, e ≠ .addOperation opType params inputs outputs)
    (h : e.perform m env = .ok (ret, m')) : m'.ops = m.ops := by
  rcases Edit.perform_cases h with
    heffect | ⟨opType, params, inputs, outputs, rfl⟩ | ⟨inputs, outputs, rfl⟩
  · exact heffect.ops_eq
  · exact absurd rfl (he opType params inputs outputs)
  · rcases Edit.specifyInputsAndOutputs_cases (Except.ok.inj h) with ⟨-, rfl⟩ | ⟨-, -, -, rfl⟩
    · rfl
    · rfl

@[simp] theorem pushInputs_ops (env : ModelEnv) (i : Nat) (m : InnerModel)
    (infos : List OHNNTensorInfo) : (pushInputs env i m infos).2.ops = m.ops := by
  induction infos generalizing i m with
  | nil => rfl
  | cons info infos ih =>
    unfold pushInputs
    split
    · rfl
    · exact ih _ _

@[simp] theorem pushOutputs_ops (env : ModelEnv) (i : Nat) (m : InnerModel)
    (infos : List OHNNTensorInfo) : (pushOutputs env i m infos).2.ops = m.ops := by
  induction infos generalizing i m with
  | nil => rfl
  | cons info infos ih =>
    unfold pushOutputs
    split
    · rfl
    · exact ih _ _

/-- `SetInputsAndOutputsInfo` leaves the operations. -/
theorem setInputsAndOutputsInfo_ops (m : InnerModel) (env : ModelEnv)
    (inputsInfo outputsInfo : List OHNNTensorInfo) :
    (m.setInputsAndOutputsInfo env inputsInfo outputsInfo).2.ops = m.ops := by
  unfold setInputsAndOutputsInfo
  split
  · rfl
  have hpush := pushInputs_ops env 0 m inputsInfo
  split
  · rename_i m₁ h₁
    rw [h₁] at hpush
    rw [pushOutputs_ops, hpush]
  · rename_i ret m₁ _ h₁
    rw [h₁] at hpush
    exact hpush

/-- The models built elsewhere keep their operations, too. -/
theorem buildFromLiteGraph_ops (m : InnerModel) (env : ModelEnv) (liteGraph : Option LiteGraph)
    (extensionConfig : ExtensionConfig) :
    (m.buildFromLiteGraph env liteGraph extensionConfig).2.ops = m.ops := by
  cases liteGraph with
  | none => rfl
  | some graph =>
    unfold buildFromLiteGraph
    dsimp only
    split
    · rfl
    split
    · rfl
    split
    · split <;> rfl
    · rfl

theorem buildFromMetaGraph_ops (m : InnerModel) (metaGraph : Option Nat)
    (extensionConfig : ExtensionConfig) :
    (m.buildFromMetaGraph metaGraph extensionConfig).2.ops = m.ops := by
  cases metaGraph with
  | none => rfl
  | some address =>
    unfold buildFromMetaGraph
    dsimp only
    split
    · rfl
    split <;> rfl

/-- `Build` installs a lite graph and changes nothing else. -/
theorem build_ops {m m' : InnerModel} {env : ModelEnv} {ret : ReturnCode}
    (h : m.build env = .ok (ret, m')) : m'.ops = m.ops := by
  unfold build at h
  grind

/-- **One call** appends the operations it adds, as its builders record them. -/
theorem step_ops {m m' : InnerModel} {call : ModelEnv × Call} (h : m.step call = .ok m') :
    ∃ ops, m'.ops = m.ops ++ ops ∧ List.Forall₂ BuiltOp.RecordedBy ops (m.additionOf call) := by
  obtain ⟨env, call⟩ := call
  obtain ⟨ret, hperform⟩ : ∃ ret, call.perform m env = .ok (ret, m') := by
    unfold step at h
    cases hcall : call.perform m env with
    | error fault =>
      rw [hcall] at h
      cases h
    | ok p =>
      rw [hcall] at h
      cases h
      exact ⟨p.1, rfl⟩
  have hsame : m.additionOf (env, call) = [] → m'.ops = m.ops →
      ∃ ops, m'.ops = m.ops ++ ops ∧
        List.Forall₂ BuiltOp.RecordedBy ops (m.additionOf (env, call)) := by
    intro hnone hops
    refine ⟨[], by rw [hops, List.append_nil], ?_⟩
    rw [hnone]
    exact List.Forall₂.nil
  -- `AddOperation` is the only call that adds an operation.
  cases call with
  | edit e =>
    by_cases hadd : ∃ opType params inputs outputs, e = .addOperation opType params inputs outputs
    · obtain ⟨opType, params, inputs, outputs, rfl⟩ := hadd
      exact addOperation_ops env hperform
    · have he : ∀ opType params inputs outputs, e ≠ .addOperation opType params inputs outputs := by
        rintro opType params inputs outputs rfl
        exact hadd ⟨_, _, _, _, rfl⟩
      refine hsame ?_ (edit_ops he hperform)
      cases e with
      | addOperation opType params inputs outputs =>
        exact absurd rfl (he opType params inputs outputs)
      | _ => rfl
  | setInputsAndOutputsInfo inputsInfo outputsInfo =>
    refine hsame rfl ?_
    have hops := m.setInputsAndOutputsInfo_ops env inputsInfo outputsInfo
    rw [Except.ok.inj hperform] at hops
    exact hops
  | buildFromLiteGraph liteGraph extensionConfig =>
    refine hsame rfl ?_
    have hops := m.buildFromLiteGraph_ops env liteGraph extensionConfig
    rw [Except.ok.inj hperform] at hops
    exact hops
  | buildFromMetaGraph metaGraph extensionConfig =>
    refine hsame rfl ?_
    have hops := m.buildFromMetaGraph_ops metaGraph extensionConfig
    rw [Except.ok.inj hperform] at hops
    exact hops
  | build => exact hsame rfl (build_ops hperform)

/-- The operations of a run are the ones its calls add. -/
theorem run_ops {m m' : InnerModel} {calls : List (ModelEnv × Call)}
    (h : Run.exec step m calls = .ok m') :
    ∃ ops, m'.ops = m.ops ++ ops ∧
      List.Forall₂ BuiltOp.RecordedBy ops (m.additionsIn calls) := by
  induction calls generalizing m with
  | nil =>
    cases h
    exact ⟨[], by rw [List.append_nil], List.Forall₂.nil⟩
  | cons call calls ih =>
    obtain ⟨m₁, hstep, hrest⟩ := Run.exec_cons_eq_ok h
    obtain ⟨ops₁, hops₁, hrecords₁⟩ := step_ops hstep
    obtain ⟨ops₂, hops₂, hrecords₂⟩ := ih hrest
    refine ⟨ops₁ ++ ops₂, by rw [hops₂, hops₁, List.append_assoc], ?_⟩
    rw [additionsIn, hstep]
    exact List.rel_append hrecords₁ hrecords₂

/-! ## Nodes -/

/-- The loop of `AddNodesToLiteGraph` converts the types of the operations. -/
theorem addNodesLoop_quantTypes {env : ModelEnv} {ids : List (Nat × Nat)} {i : Nat}
    {ops : List BuiltOp} {nodes nodes' : List Node}
    (h : addNodesLoop env ids i nodes ops = .ok (.success, nodes')) :
    ∃ added, nodes' = nodes ++ added ∧ List.Forall₂
      (fun op node => node.quantType = NNToMS.transformQuantType op.quantType) ops added := by
  induction ops generalizing i nodes with
  | nil =>
    cases h
    exact ⟨[], by rw [List.append_nil], List.Forall₂.nil⟩
  | cons op ops ih =>
    rw [addNodesLoop] at h
    split at h
    · cases h
    split at h
    · cases h
    split at h
    · cases h
    split at h
    · cases h
    · cases h
    split at h
    · cases h
    · obtain ⟨added, rfl, hadded⟩ := ih h
      refine ⟨_ :: added, List.append_assoc _ _ _, List.Forall₂.cons rfl hadded⟩

/-- A filled lite graph has the types of the operations. -/
theorem fillLiteGraph_quantTypes {m : InnerModel} {env : ModelEnv} {graph : LiteGraph}
    (h : m.fillLiteGraph env = .ok (.success, graph)) : List.Forall₂
      (fun op node => node.quantType = NNToMS.transformQuantType op.quantType)
      m.ops graph.allNodes := by
  unfold fillLiteGraph at h
  cases htensors : m.addTensorsToLiteGraph env { name := "NNR_Model" } with
  | error fault => simp [htensors] at h
  | ok p =>
  obtain ⟨graph₁, ids⟩ := p
  simp only [htensors, ok_bind] at h
  cases hnodes : addNodesLoop env ids 0 [] m.ops with
  | error fault => simp [hnodes] at h
  | ok q =>
  obtain ⟨ret, nodes⟩ := q
  simp only [hnodes, ok_bind, pure_eq_ok] at h
  split at h
  · rename_i hret
    cases h
    exact absurd rfl hret
  · rename_i hret
    rw [not_not] at hret
    subst hret
    obtain ⟨added, hadded, hforall⟩ := addNodesLoop_quantTypes hnodes
    rw [List.nil_append] at hadded
    split at h
    · cases h
    · cases h
      rw [hadded]
      exact hforall

/-- **A successful `Build`** gives each node the type of its operation. -/
theorem build_quantTypes {m m' : InnerModel} {env : ModelEnv}
    (h : m.build env = .ok (.success, m')) :
    ∃ graph, m' = { m with liteGraph := some graph } ∧ List.Forall₂
      (fun op node => node.quantType = NNToMS.transformQuantType op.quantType)
      m.ops graph.allNodes := by
  unfold build at h
  split at h
  · cases h
  split at h
  · cases h
  split at h
  · cases h
  split at h
  · cases h
  split at h
  · cases h
  split at h
  · cases h
  · rename_i ret graph hfill
    cases h
    exact ⟨graph, rfl, fillLiteGraph_quantTypes hfill⟩

theorem transformQuantType_eq_all_iff (quantType : OpsQuantType) :
    NNToMS.transformQuantType quantType = NNToMS.transformQuantType .all ↔ quantType = .all := by
  cases quantType <;> decide

/-! ## The law -/

/-- Where two relations agree for elements with a property, the second adds just that. -/
theorem forall₂_iff_forall_mem {α β : Type} {R S : α → β → Prop} {P : α → Prop}
    {as : List α} {bs : List β} (hiff : ∀ a b, R a b → (S a b ↔ P a)) (h : List.Forall₂ R as bs) :
    List.Forall₂ S as bs ↔ ∀ a ∈ as, P a := by
  induction h with
  | nil => exact iff_of_true List.Forall₂.nil (List.forall_mem_nil _)
  | cons hab _ ih => rw [List.forall₂_cons, List.forall_mem_cons, hiff _ _ hab, ih]

/-- **The nodes of a built model agree with its tensors exactly if every builder
of the run has looked, and at a tensor as it is in the end**: an operation whose
first output is quantised in the built model is of a type whose builder calls
`SetQuantType` and was added when that output was quantised; the others are of
another type or were added when theirs was not. -/
theorem quantTypesAgree_iff {calls : List (ModelEnv × Call)} {env : ModelEnv}
    {m m' : InnerModel} (hrun : Run.exec step {} calls = .ok m)
    (hbuild : m.build env = .ok (.success, m')) :
    m'.QuantTypesAgree ↔ ∀ a ∈ additionsIn {} calls,
      (a.opType.setsQuantType ∧ a.isQuant = true ↔
        isFirstOutputQuant a.outputs m.allTensors = true) := by
  obtain ⟨ops, hops, hrecords⟩ := run_ops hrun
  rw [show ops = m.ops from hops.symm] at hrecords
  obtain ⟨graph, rfl, hnodes⟩ := build_quantTypes hbuild
  -- First from the nodes to the operations, then to what was added.
  calc QuantTypesAgree { m with liteGraph := some graph }
      ↔ List.Forall₂ (fun op node => node.quantType = NNToMS.transformQuantType .all ↔
          isFirstOutputQuant op.outputsIndex m.allTensors = true) m.ops graph.allNodes := by
        constructor
        · rintro ⟨graph', hgraph, hagree⟩
          cases hgraph
          exact hagree
        · exact fun hagree => ⟨graph, rfl, hagree⟩
    _ ↔ ∀ op ∈ m.ops, (op.quantType = .all ↔
          isFirstOutputQuant op.outputsIndex m.allTensors = true) := by
        refine forall₂_iff_forall_mem (fun op node hnode => ?_) hnodes
        rw [hnode, transformQuantType_eq_all_iff]
    _ ↔ ∀ a ∈ additionsIn {} calls, (a.opType.setsQuantType ∧ a.isQuant = true ↔
          isFirstOutputQuant a.outputs m.allTensors = true) := by
        refine forall_mem_iff_of_forall₂ (fun op a hrecord => ?_) hrecords
        rw [hrecord.quantType, hrecord.outputsIndex]

/-- The calls of a model of one operation from an `int8` tensor to another one;
the parameters of the output are set with the tensor, or once the operation is added. -/
def quantModel (opType : OperationType) (quantParam : Option (Option (List QuantParam)))
    (late : List (ModelEnv × Call)) : List (ModelEnv × Call) :=
  ({}, .edit (.addTensor ⟨some .int8, .array [1], none, some .tensor⟩)) ::
  ({}, .edit (.addTensor ⟨some .int8, .array [1], quantParam, some .tensor⟩)) ::
  ({}, .edit (.addOperation (some opType) (.null 0) (.array [0]) (.array [1]))) ::
  ({}, .edit (.specifyInputsAndOutputs (.array [0]) (.array [1]))) :: late

/-- One channel of 8 bits, with scale 1. -/
def oneChannel : QuantParam := ⟨8, 0x3ff0000000000000, 0⟩

/-- The same, by `SetTensorQuantParam`. -/
def setOutputQuantParam : ModelEnv × Call :=
  ({}, .edit (.setTensorQuantParam 1 (some ⟨[0x3ff0000000000000], [0], [8]⟩)))

/-- A `Relu` to a quantised tensor. -/
theorem quantTypesAgree_iff_relu : ∃ m m',
    Run.exec step {} (quantModel .relu (some (some [oneChannel])) []) = .ok m ∧
      m.build {} = .ok (.success, m') ∧
        (m'.QuantTypesAgree ↔
          ∀ a ∈ additionsIn {} (quantModel .relu (some (some [oneChannel])) []),
            (a.opType.setsQuantType ∧ a.isQuant = true ↔
              isFirstOutputQuant a.outputs m.allTensors = true)) :=
  by
  have hbuilt : ∃ m m', Run.exec step {} (quantModel .relu (some (some [oneChannel])) []) = .ok m ∧
      m.build {} = .ok (.success, m') := ⟨_, _, rfl, rfl⟩
  obtain ⟨m, m', hrun, hbuild⟩ := hbuilt
  exact ⟨m, m', hrun, hbuild, quantTypesAgree_iff hrun hbuild⟩

/-- An `Abs` to a quantised tensor, and a `Relu` to one that is quantised
afterwards: both nodes have the type `QUANT_NONE`. -/
theorem quantTypes_disagree :
    (∃ m m', Run.exec step {} (quantModel .abs (some (some [oneChannel])) []) = .ok m ∧
      m.build {} = .ok (.success, m') ∧ ¬ m'.QuantTypesAgree) ∧
    ∃ m m', Run.exec step {} (quantModel .relu none [setOutputQuantParam]) = .ok m ∧
      m.build {} = .ok (.success, m') ∧ ¬ m'.QuantTypesAgree := by
  constructor
  · refine ⟨_, _, rfl, rfl, ?_⟩
    rintro ⟨graph, hgraph, hagree⟩
    cases hgraph
    cases hagree with
    | cons hnode _ => exact absurd hnode (by decide)
  · refine ⟨_, _, rfl, rfl, ?_⟩
    rintro ⟨graph, hgraph, hagree⟩
    cases hgraph
    cases hagree with
    | cons hnode _ => exact absurd hnode (by decide)

end InnerModel

end NNRt
