import NNRt.Executor.Sync
import NNRt.Lib.Cells

/-!
# Executors of one compiled model

`CreateExecutor` copies the pointers to the descriptions of the compiled model, not
the descriptions. A run writes the dimensions the device reports through them, so
every executor of the model sees them.

- `writesOf`: the writes of one loop over the reported dimensions.
- `perform_wrote`: **what any call does to the shared descriptions**.
- `SameObservations`: what can be seen through another executor.
- `observations_iff`: **when another executor sees nothing**: when every run
  reports the shapes that are there.
- `run_seen`: a run that changes what another executor answers.
-/

namespace NNRt

/-- A description with the dimensions that are reported for it. -/
def TensorDesc.reshape (desc : TensorDesc) (dims : List Int32) : TensorDesc :=
  (desc.setShape dims).2

/-- `SetShape` accepts these dimensions. -/
def ShapeAccepted (dims : List Int32) : Prop :=
  dims.length ≠ 0 ∧ dims.length ≤ shapeMaxNum

instance (dims : List Int32) : Decidable (ShapeAccepted dims) :=
  inferInstanceAs (Decidable (_ ∧ _))

theorem TensorDesc.setShape_success_iff {desc : TensorDesc} {dims : List Int32} :
    (desc.setShape dims).1 = .success ↔ ShapeAccepted dims := by
  unfold setShape ShapeAccepted
  split
  · rename_i h
    constructor
    · intro hret
      cases hret
    · rintro ⟨hne, hle⟩
      omega
  · rename_i h
    exact ⟨fun _ => by omega, fun _ => rfl⟩

/-- Accepted dimensions change nothing iff they are the shape. -/
theorem TensorDesc.reshape_eq_self_iff {desc : TensorDesc} {dims : List Int32}
    (h : ShapeAccepted dims) : desc.reshape dims = desc ↔ desc.shape = dims := by
  have hset := @setShape_eq desc dims (fun h0 => h.1 (by rw [h0]; rfl)) h.2
  rw [reshape, hset]
  constructor
  · intro heq
    rw [← heq]
  · rintro rfl
    rfl

/-- Writing a description that was there. -/
theorem World.setDesc_descs {w : World} {ref : Nat} {dims : List Int32} {desc : TensorDesc}
    (h : (w.desc ref).setShape dims = (.success, desc)) :
    (w.setDesc ref desc).descs = w.descs.modify ref (·.reshape dims) := by
  apply List.ext_getElem?
  intro k
  show (w.descs.set ref desc)[k]? = _
  by_cases hk : ref = k
  · subst hk
    rw [List.getElem?_modify_eq, List.getElem?_set_self']
    cases hdesc : w.descs[ref]? with
    | none => rfl
    | some d =>
      have hold : w.desc ref = d := by rw [World.desc, List.getD_eq_getElem?_getD, hdesc]; rfl
      rw [hold] at h
      show some desc = some (d.reshape dims)
      rw [TensorDesc.reshape, h]
  · rw [List.getElem?_set_ne hk, List.getElem?_modify_ne _ _ hk]

namespace NNExecutor

/-! ## The writes of a loop -/

/-- The references and dimensions a loop writes, up to the first dimensions that the
tensor of the output or the description refuses. -/
def writesOf {α : Type} (accepts : α → List Int32 → Prop) [∀ x dims, Decidable (accepts x dims)] :
    List α → DescRefs → List (List Int32) → List (Nat × List Int32)
  | x :: xs, (ref, _) :: refs, dims :: outputsDims =>
    if accepts x dims ∧ ShapeAccepted dims then
      (ref, dims) :: writesOf accepts xs refs outputsDims
    else []
  | _, _, _ => []

section WritesOf

variable {α : Type} {accepts : α → List Int32 → Prop} [∀ x dims, Decidable (accepts x dims)]

theorem writesOf_accepted {xs : List α} {refs : DescRefs} {outputsDims : List (List Int32)} :
    ∀ u ∈ writesOf accepts xs refs outputsDims, ShapeAccepted u.2 := by
  induction xs generalizing refs outputsDims with
  | nil => simp [writesOf]
  | cons x xs ih =>
    cases refs with
    | nil => simp [writesOf]
    | cons ref refs =>
      cases outputsDims with
      | nil => simp [writesOf]
      | cons dims outputsDims =>
        intro u hu
        unfold writesOf at hu
        split at hu
        · rename_i haccepts
          rcases List.mem_cons.mp hu with rfl | hu
          · exact haccepts.2
          · exact ih u hu
        · cases hu

/-- The loop goes through the references from the first one on. -/
theorem writesOf_refs (xs : List α) (refs : DescRefs) (outputsDims : List (List Int32)) :
    (writesOf accepts xs refs outputsDims).map Prod.fst <+: refs.map Prod.fst := by
  induction xs generalizing refs outputsDims with
  | nil => exact List.nil_prefix
  | cons x xs ih =>
    cases refs with
    | nil => exact List.nil_prefix
    | cons ref refs =>
      cases outputsDims with
      | nil => exact List.nil_prefix
      | cons dims outputsDims =>
        unfold writesOf
        split
        · rw [List.map_cons, List.map_cons]
          exact (List.prefix_cons_inj _).mpr (ih refs outputsDims)
        · exact List.nil_prefix

/-- The loop stops at the first output when that is refused. -/
theorem writesOf_refused {x : α} {dims : List Int32} (h : ¬ (accepts x dims ∧ ShapeAccepted dims))
    (xs : List α) (refs : DescRefs) (outputsDims : List (List Int32)) :
    writesOf accepts (x :: xs) refs (dims :: outputsDims) = [] := by
  cases refs with
  | nil => rfl
  | cons ref refs =>
    unfold writesOf
    rw [if_neg h]

theorem writesOf_congr {accepts' : α → List Int32 → Prop} [∀ x dims, Decidable (accepts' x dims)]
    (h : ∀ x dims, accepts x dims ↔ accepts' x dims) (xs : List α) (refs : DescRefs)
    (outputsDims : List (List Int32)) :
    writesOf accepts xs refs outputsDims = writesOf accepts' xs refs outputsDims := by
  induction xs generalizing refs outputsDims with
  | nil => rfl
  | cons x xs ih =>
    cases refs with
    | nil => rfl
    | cons ref refs =>
      cases outputsDims with
      | nil => rfl
      | cons dims outputsDims =>
        unfold writesOf
        simp only [h, ih]

end WritesOf

/-- `SetDimensions` of the tensor of an output accepts these dimensions. -/
abbrev TensorAccepts (t : NNTensor Address) (dims : List Int32) : Prop :=
  (t.setDimensions dims).1 = .success

/-- The tensor of the user has a description to write to. -/
abbrev Described (tensors : List NNTensor2_0) (address : Nat) : Prop :=
  ((tensors[address]?).bind NNTensor2_0.tensorDesc).isSome

/-- The loop of `Run`. -/
theorem setOutputDims_writes {i : Nat} {e e' : NNExecutor} {w w' : World}
    {ts : List (NNTensor Address)} {refs : DescRefs} {outputsDims : List (List Int32)}
    {ret : ReturnCode} (h : setOutputDims i e w ts refs outputsDims = (ret, e', w')) :
    w'.descs = Cells.updateAll TensorDesc.reshape w.descs
      (writesOf TensorAccepts ts refs outputsDims) := by
  induction ts generalizing i e w refs outputsDims with
  | nil =>
    cases h
    rfl
  | cons t ts ih =>
    cases refs with
    | nil =>
      cases h
      rfl
    | cons ref refs =>
      cases outputsDims with
      | nil =>
        cases h
        rfl
      | cons dims outputsDims =>
        unfold setOutputDims at h
        unfold writesOf
        split at h
        · rename_i t' ht
          have haccepts : TensorAccepts t dims := by rw [TensorAccepts, ht]
          dsimp only at h
          split at h
          · rename_i desc hdesc
            have hshape : ShapeAccepted dims := by
              rw [← @TensorDesc.setShape_success_iff (w.desc ref.1), hdesc]
            rw [if_pos ⟨haccepts, hshape⟩, Cells.updateAll_cons, ih h,
              World.setDesc_descs hdesc]
          · -- The description refuses the dimensions.
            rename_i hret hdesc
            have hrefused : ¬ (TensorAccepts t dims ∧ ShapeAccepted dims) := by
              rintro ⟨-, hshape⟩
              rw [← @TensorDesc.setShape_success_iff (w.desc ref.1), hdesc] at hshape
              exact hret hshape
            rw [if_neg hrefused]
            cases h
            rfl
        · -- The tensor refuses them.
          rename_i hret ht
          have hrefused : ¬ (TensorAccepts t dims ∧ ShapeAccepted dims) := by
            rintro ⟨haccepts, -⟩
            rw [TensorAccepts, ht] at haccepts
            exact hret haccepts
          rw [if_neg hrefused]
          cases h
          rfl

/-- What the loop of a synchronous run does to the descriptions. -/
structure Writes (setDims : SetDims) (accepts : List NNTensor2_0 → Nat → Prop)
    [∀ tensors address, Decidable (accepts tensors address)] : Prop where
  descs : ∀ {w w' : World} {addresses : List Nat} {refs : DescRefs}
    {outputsDims : List (List Int32)} {ret : ReturnCode},
    outputsDims.length = addresses.length →
    setDims w addresses refs outputsDims = .ok (ret, w') →
    w'.descs = Cells.updateAll TensorDesc.reshape w.descs
      (writesOf (fun address _ => accepts w.tensors address) addresses refs outputsDims)

theorem described_set {tensors : List NNTensor2_0} {address other : Nat} {t : NNTensor2_0}
    {desc : TensorDesc} (ht : tensors[address]? = some t) (hdesc : t.tensorDesc.isSome) :
    Described (tensors.set address { t with tensorDesc := some desc }) other ↔
      Described tensors other := by
  unfold Described
  by_cases heq : address = other
  · subst heq
    have hlt : address < tensors.length := (List.getElem?_eq_some_iff.mp ht).1
    rw [List.getElem?_set_self hlt, ht]
    exact ⟨fun _ => hdesc, fun _ => rfl⟩
  · rw [List.getElem?_set_ne heq]

/-- A tensor that refuses its dimensions stays as it is. -/
theorem setTensorShape_refused {w w' : World} {address : Nat} {dims : List Int32}
    {ret : ReturnCode} (h : setTensorShape w address dims = .ok (ret, w'))
    (hret : ret ≠ .success) : w' = w ∧ ¬ (Described w.tensors address ∧ ShapeAccepted dims) := by
  unfold setTensorShape at h
  split at h
  · cases h
  rename_i t ht
  split at h
  · -- The tensor has no description.
    rename_i hdesc
    have hundescribed : ¬ Described w.tensors address := by
      unfold Described
      rw [ht]
      show ¬ t.tensorDesc.isSome
      rw [hdesc]
      decide
    cases h
    exact ⟨rfl, fun haccepts => hundescribed haccepts.1⟩
  · rename_i desc hdesc
    split at h
    · cases h
      exact absurd rfl hret
    · rename_i hset
      rw [Except.ok.injEq, Prod.mk.injEq] at h
      obtain ⟨rfl, rfl⟩ := h
      have hrefused : ¬ ShapeAccepted dims := by
        rw [← @TensorDesc.setShape_success_iff desc, hset]
        exact hret
      exact ⟨rfl, fun haccepts => hrefused haccepts.2⟩

/-- The loop of `RunSync`. -/
theorem setSyncDims_writes : Writes setSyncDims Described := by
  refine ⟨?_⟩
  intro w w' addresses refs outputsDims ret hlength h
  induction addresses generalizing w refs outputsDims with
  | nil =>
    cases h
    rfl
  | cons address addresses ih =>
    cases outputsDims with
    | nil => cases hlength
    | cons dims outputsDims =>
      have hrest : outputsDims.length = addresses.length := by simpa using hlength
      unfold setSyncDims at h
      split at h
      · cases h
      · rename_i w₁ hshape
        unfold setTensorShape at hshape
        split at hshape
        · cases hshape
        rename_i t ht
        split at hshape
        · cases hshape
        rename_i desc₀ hdesc₀
        split at hshape
        · rename_i desc₁ hset
          cases hshape
          have hdescribed : Described w.tensors address := by
            unfold Described
            rw [ht]
            show t.tensorDesc.isSome
            rw [hdesc₀]
            rfl
          have hshape : ShapeAccepted dims := by
            rw [← @TensorDesc.setShape_success_iff desc₀, hset]
          split at h
          · cases h
          rename_i ref type refs
          unfold writesOf
          rw [if_pos ⟨hdescribed, hshape⟩, Cells.updateAll_cons]
          split at h
          · rename_i desc hdesc
            have hwrites := ih hrest h
            rw [World.setDesc_descs hdesc] at hwrites
            -- The loop leaves every tensor with a description if it had one.
            have hsame : ∀ other, Described _ other ↔ Described w.tensors other := fun other =>
              @described_set w.tensors address other t desc₁ ht (by rw [hdesc₀]; rfl)
            rw [hwrites]
            exact congrArg (Cells.updateAll _ _)
              (writesOf_congr (fun other _ => hsame other) addresses refs outputsDims)
          · rename_i hret hdesc
            rw [← @TensorDesc.setShape_success_iff (World.desc _ ref), hdesc] at hshape
            exact absurd hshape hret
        · rename_i hret _
          exact absurd hshape (ok_code_ne hret)
      · rename_i hret hshape
        obtain ⟨rfl, hrefused⟩ := setTensorShape_refused hshape hret
        cases h
        rw [writesOf_refused hrefused, Cells.updateAll_nil]

/-- The loop of `RunSyncWithAipp`. -/
theorem aippDims_writes : Writes aippDims fun _ _ => True := by
  refine ⟨?_⟩
  intro w w' addresses refs outputsDims ret hlength h
  unfold aippDims at h
  induction addresses generalizing w refs outputsDims with
  | nil =>
    rw [List.length_nil, List.length_eq_zero_iff] at hlength
    subst hlength
    unfold setAippDims at h
    cases h
    rfl
  | cons address addresses ih =>
    cases outputsDims with
    | nil => cases hlength
    | cons dims outputsDims =>
      have hrest : outputsDims.length = addresses.length := by simpa using hlength
      unfold setAippDims at h
      split at h
      · cases h
      rename_i ref type refs
      unfold writesOf
      split at h
      · rename_i desc hdesc
        have hshape : ShapeAccepted dims := by
          rw [← @TensorDesc.setShape_success_iff (w.desc ref), hdesc]
        rw [if_pos ⟨trivial, hshape⟩, Cells.updateAll_cons, ih hrest h,
          World.setDesc_descs hdesc]
      · rename_i hret hdesc
        have hrefused : ¬ ShapeAccepted dims := by
          rw [← @TensorDesc.setShape_success_iff (w.desc ref), hdesc]
          exact hret
        rw [if_neg fun haccepts => hrefused haccepts.2]
        cases h
        rfl

/-! ## The writes of a call -/

/-- A run asks the device, which answers. -/
def RunReports (e : NNExecutor) (env : ExecutorEnv) : Prop :=
  e.AllSet ∧ RunAnswers env.run e.outputTensors.entries.length

/-- A synchronous run asks the device without a reload, and the device answers. -/
def SyncReports (e : NNExecutor) (w : World) (env : ExecutorEnv)
    (inputTensors outputTensors : List (Option Nat)) : Prop :=
  e.inputTensorDescs.length = inputTensors.length ∧
    e.outputTensorDescs.length = outputTensors.length ∧ e.preparedModel.isSome ∧
    e.SyncReady w env inputTensors outputTensors ∧ RunAnswers env.run outputTensors.length

/-- The dimensions written to a set of shared descriptions are their shapes. -/
def Held (shared : Nat → Prop) (w : World) (ws : List (Nat × List Int32)) : Prop :=
  ∀ u ∈ ws, shared u.1 → (w.desc u.1).shape = u.2

/-- A call writes to the shared descriptions what they hold. What a run writes after
a reload goes to new descriptions. -/
def KeepsShapes (shared : Nat → Prop) (s : NNExecutor × World) (call : ExecutorEnv × ExecutorCall) :
    Prop :=
  match call.2 with
  | .run => RunReports s.1 call.1 →
    ∀ outputs, tensorsOf s.1.outputTensors s.1.outputTensors.entries.length = some outputs →
      Held shared s.2
        (writesOf TensorAccepts outputs s.1.outputTensorDescs call.1.run.outputsDims)
  | .runSync _ inputs outputs => SyncReports s.1 s.2 call.1 inputs outputs →
    Held shared s.2 (writesOf (fun address _ => Described s.2.tensors address) (outputs.filterMap id)
      s.1.outputTensorDescs call.1.run.outputsDims)
  | .runSyncWithAipp _ inputs outputs =>
    call.1.setAippString = .success → SyncReports s.1 s.2 call.1 inputs outputs →
    Held shared s.2 (writesOf (fun _ _ => True) (outputs.filterMap id)
      s.1.outputTensorDescs call.1.run.outputsDims)
  | _ => True

/-- What a call has done to the descriptions and the references to them. -/
structure Wrote (s s' : NNExecutor × World) (ws : List (Nat × List Int32)) : Prop where
  accepted : ∀ u ∈ ws, ShapeAccepted u.2
  named : ws.map Prod.fst <+: s.1.outputTensorDescs.map Prod.fst
  grown : s.2.descs.length ≤ s'.2.descs.length
  descs : ∀ ref < s.2.descs.length,
    s'.2.descs[ref]? = (Cells.updateAll TensorDesc.reshape s.2.descs ws)[ref]?
  /-- After a reload all the references are new. -/
  refs : s'.1.outputTensorDescs = s.1.outputTensorDescs ∨
    (s'.1.outputTensorDescs.map Prod.fst).Nodup ∧
      ∀ ref ∈ s'.1.outputTensorDescs.map Prod.fst, s.2.descs.length ≤ ref

section Wrote

variable {e e' : NNExecutor} {w w' : World} {env : ExecutorEnv} {ret : ReturnCode}

/-- A call that leaves the descriptions and the references alone. -/
theorem wrote_nothing (hdescs : w'.descs = w.descs)
    (hrefs : e'.outputTensorDescs = e.outputTensorDescs) : Wrote (e, w) (e', w') [] where
  accepted := by simp
  named := List.nil_prefix
  grown := le_of_eq (congrArg List.length hdescs.symm)
  descs ref _ := by rw [Cells.updateAll_nil, hdescs]
  refs := Or.inl hrefs

/-- A loop over the reported dimensions. -/
theorem wrote_loop {α : Type} {accepts : α → List Int32 → Prop}
    [∀ x dims, Decidable (accepts x dims)] {xs : List α} {outputsDims : List (List Int32)}
    (hdescs : w'.descs = Cells.updateAll TensorDesc.reshape w.descs
      (writesOf accepts xs e.outputTensorDescs outputsDims))
    (hrefs : e'.outputTensorDescs = e.outputTensorDescs) :
    Wrote (e, w) (e', w') (writesOf accepts xs e.outputTensorDescs outputsDims) where
  accepted := writesOf_accepted
  named := writesOf_refs xs e.outputTensorDescs outputsDims
  grown := by
    show w.descs.length ≤ w'.descs.length
    rw [hdescs, Cells.length_updateAll]
  descs ref _ := by rw [hdescs]
  refs := Or.inl hrefs

/-- `Run`. -/
theorem run_wrote (h : e.run w env = .ok (ret, e', w')) :
    ∃ ws, Wrote (e, w) (e', w') ws ∧
      ∀ shared, Held shared w ws ↔ KeepsShapes shared (e, w) (env, .run) := by
  cases run_ran h with
  | refused hset =>
    refine ⟨[], wrote_nothing rfl rfl, fun shared => ⟨fun _ hreports => ?_, fun _ u hu => ?_⟩⟩
    · exact absurd hreports.1 hset
    · cases hu
  | failed _ houtputs _ _ hanswers =>
    refine ⟨[], wrote_nothing rfl rfl, fun shared => ⟨fun _ hreports => ?_, fun _ u hu => ?_⟩⟩
    · rw [RunReports, ← tensorsOf_length houtputs] at hreports
      exact absurd hreports.2 hanswers
    · cases hu
  | dims _ houtputs hdims _ hset hanswers =>
    obtain ⟨hsame, -⟩ := setOutputDims_sameBuffers (aligned_of_tensorsOf houtputs) hdims
    have hdescs := setOutputDims_writes hdims
    refine ⟨_, wrote_loop hdescs (by rw [hsame.rest]), fun shared => ?_⟩
    constructor
    · intro hheld _ outputs' houtputs'
      rw [houtputs] at houtputs'
      cases houtputs'
      exact hheld
    · intro hkeeps
      rw [tensorsOf_length houtputs] at hanswers
      exact hkeeps ⟨hset, hanswers⟩ _ houtputs
  | copied _ _ houtputs hcode hlength hdims hcopy hset =>
    obtain ⟨hsame, -⟩ := setOutputDims_sameBuffers (aligned_of_tensorsOf houtputs) hdims
    have hdescs := (copyOutputs_frame hcopy).2.trans (setOutputDims_writes hdims)
    refine ⟨_, wrote_loop hdescs (by rw [hsame.rest]), fun shared => ?_⟩
    constructor
    · intro hheld _ outputs' houtputs'
      rw [houtputs] at houtputs'
      cases houtputs'
      exact hheld
    · intro hkeeps
      rw [tensorsOf_length houtputs] at hlength
      exact hkeeps ⟨hset, hcode, hlength⟩ _ houtputs

theorem filterMap_map_some (addresses : List Nat) :
    (addresses.map some).filterMap id = addresses := by
  rw [List.filterMap_map]
  exact List.filterMap_some

theorem posted_refs (e : NNExecutor) (ret : ReturnCode) :
    (e.posted ret).outputTensorDescs = e.outputTensorDescs := by
  unfold posted
  split
  · rfl
  · rfl

/-- A run of the tensors. -/
theorem tensorsWith_wrote {setDims : SetDims} {accepts : List NNTensor2_0 → Nat → Prop}
    [∀ tensors address, Decidable (accepts tensors address)] (hwrites : Writes setDims accepts)
    {inputs outputs : List (Option Nat)}
    (h : e.tensorsWith setDims w env inputs outputs = .ok (ret, e', w')) :
    ∃ ws, Wrote (e, w) (e', w') ws ∧ ∀ shared, Held shared w ws ↔
      (e.SyncReady w env inputs outputs → RunAnswers env.run outputs.length →
        Held shared w (writesOf (fun address _ => accepts w.tensors address)
          (outputs.filterMap id) e.outputTensorDescs env.run.outputsDims)) := by
  cases tensorsWith_ran h with
  | refused hready =>
    refine ⟨[], wrote_nothing rfl rfl, fun shared => ⟨fun _ hready' => ?_, fun _ u hu => ?_⟩⟩
    · exact absurd hready' hready
    · cases hu
  | failed _ hanswers =>
    refine ⟨[], wrote_nothing rfl rfl, fun shared => ⟨fun _ _ hanswers' => ?_, fun _ u hu => ?_⟩⟩
    · exact absurd hanswers' hanswers
    · cases hu
  | reported hready hanswers houtputs hdims =>
    subst houtputs
    rw [List.length_map] at hanswers
    have hdescs := hwrites.descs hanswers.2 hdims
    refine ⟨_, wrote_loop hdescs (posted_refs e ret), fun shared => ?_⟩
    rw [filterMap_map_some, List.length_map]
    exact ⟨fun hheld _ _ => hheld, fun hkeeps => hkeeps hready hanswers⟩

/-- The references to new descriptions are the next ones. -/
theorem createDescs_refs (w : World) (descs : List (TensorDesc × UInt32)) :
    (w.createDescs descs).1.map Prod.fst
      = (List.range descs.length).map (w.descs.length + ·) := by
  show (descs.mapIdx fun i desc => (w.descs.length + i, desc.2)).map Prod.fst = _
  apply List.ext_getElem?
  intro k
  rw [List.getElem?_map, List.getElem?_mapIdx, List.getElem?_map]
  by_cases hk : k < descs.length
  · rw [List.getElem?_eq_getElem hk, List.getElem?_range hk]
    rfl
  · rw [List.getElem?_eq_none (by omega), List.getElem?_eq_none (by rw [List.length_range]; omega)]
    rfl

theorem createDescs_nodup (w : World) (descs : List (TensorDesc × UInt32)) :
    ((w.createDescs descs).1.map Prod.fst).Nodup := by
  rw [createDescs_refs]
  exact List.nodup_range.map fun i j h => by simpa using h

theorem le_of_mem_createDescs {w : World} {descs : List (TensorDesc × UInt32)} {ref : Nat}
    (h : ref ∈ (w.createDescs descs).1.map Prod.fst) :
    w.descs.length ≤ ref ∧ ref < (w.createDescs descs).2.descs.length := by
  rw [createDescs_refs] at h
  obtain ⟨k, hk, rfl⟩ := List.mem_map.mp h
  rw [List.mem_range] at hk
  refine ⟨Nat.le_add_right _ _, ?_⟩
  show _ < (w.descs ++ descs.map Prod.fst).length
  rw [List.length_append, List.length_map]
  omega

/-- After a successful reload the references are new. -/
theorem reload_new {env : ReloadEnv} (h : e.reload w env = .ok (.success, e', w')) :
    (e'.outputTensorDescs.map Prod.fst).Nodup ∧
      ∀ ref ∈ e'.outputTensorDescs.map Prod.fst, w.descs.length ≤ ref := by
  have hreloaded := reload_reloaded h
  generalize hret : ReturnCode.success = ret at hreloaded
  cases hreloaded with
  | refused hne => exact absurd hret.symm hne
  | unprepared _ hne => exact absurd hret.symm hne
  | prepared =>
    rename_i inputs outputs _ _
    refine ⟨createDescs_nodup _ outputs, fun ref href => ?_⟩
    have hle := (le_of_mem_createDescs href).1
    refine le_trans ?_ hle
    show w.descs.length ≤ (w.descs ++ inputs.map Prod.fst).length
    rw [List.length_append]
    omega

/-- A reload creates descriptions, and writes none that was there. -/
theorem reload_wrote {env : ReloadEnv} (h : e.reload w env = .ok (ret, e', w')) :
    Wrote (e, w) (e', w') [] := by
  cases reload_reloaded h with
  | refused => exact wrote_nothing rfl rfl
  | unprepared => exact wrote_nothing rfl rfl
  | prepared =>
    rename_i mappings inputs outputs hret hmodel
    refine ⟨by simp, List.nil_prefix, ?_, fun ref href => ?_, Or.inr (reload_new h)⟩
    · show w.descs.length ≤ (w.descs ++ inputs.map Prod.fst ++ outputs.map Prod.fst).length
      rw [List.length_append, List.length_append]
      omega
    · show (w.descs ++ inputs.map Prod.fst ++ outputs.map Prod.fst)[ref]? = w.descs[ref]?
      have hlt : ref < w.descs.length := href
      rw [List.append_assoc, List.getElem?_append_left hlt]

/-- The waiting unload tasks have nothing to do with the descriptions. -/
theorem Wrote.of_handler {tasks : Option Nat} {s' : NNExecutor × World}
    {ws : List (Nat × List Int32)} (h : Wrote ({ e with autoUnloadHandler := tasks }, w) s' ws) :
    Wrote (e, w) s' ws :=
  ⟨h.accepted, h.named, h.grown, h.descs, h.refs⟩

/-- A successful reload, and then writes through the new references. -/
theorem wrote_reloaded {reloadEnv : ReloadEnv} {e₁ : NNExecutor} {w₁ : World}
    {ws : List (Nat × List Int32)} (hreload : e.reload w reloadEnv = .ok (.success, e₁, w₁))
    (hrun : Wrote (e₁, w₁) (e', w') ws) : Wrote (e, w) (e', w') [] := by
  obtain ⟨hnodup, hnew⟩ := reload_new hreload
  have hcreated := reload_wrote hreload
  have hgrown : w.descs.length ≤ w₁.descs.length := hcreated.grown
  refine ⟨by simp, List.nil_prefix, hgrown.trans hrun.grown, fun ref href => ?_, Or.inr ?_⟩
  · have hlt : ref < w.descs.length := href
    have hother : ∀ u ∈ ws, u.1 ≠ ref := by
      intro u hu heq
      have hle := hnew u.1 (hrun.named.subset (List.mem_map_of_mem hu))
      omega
    have hwritten := hrun.descs ref (lt_of_lt_of_le hlt hgrown)
    rw [Cells.updateAll_other hother] at hwritten
    exact hwritten.trans (hcreated.descs ref href)
  · rcases hrun.refs with hsame | ⟨hnodup', hnew'⟩
    · have hsame : e'.outputTensorDescs = e₁.outputTensorDescs := hsame
      show (e'.outputTensorDescs.map Prod.fst).Nodup ∧
        ∀ ref ∈ e'.outputTensorDescs.map Prod.fst, w.descs.length ≤ ref
      rw [hsame]
      exact ⟨hnodup, hnew⟩
    · exact ⟨hnodup', fun ref href => hgrown.trans (hnew' ref href)⟩

/-- The conditions under which a synchronous run asks the device at once. -/
def AsksAtOnce (e : NNExecutor) (inputs outputs : List (Option Nat)) : Prop :=
  e.inputTensorDescs.length = inputs.length ∧ e.outputTensorDescs.length = outputs.length ∧
    e.preparedModel.isSome

/-- `RunSync` and `RunSyncWithAipp`, given what they do at once. -/
theorem syncWith_wrote {runTensors : NNExecutor → World → Outcome} {reloadEnv : ReloadEnv}
    {inputs outputs : List (Option Nat)} {K : (Nat → Prop) → Prop}
    (hany : ∀ e w ret e' w', runTensors e w = .ok (ret, e', w') →
      ∃ ws, Wrote (e, w) (e', w') ws)
    (honce : ∀ ret e' w', runTensors { e with autoUnloadHandler := some 0 } w = .ok (ret, e', w') →
      ∃ ws, Wrote ({ e with autoUnloadHandler := some 0 }, w) (e', w') ws ∧
        ∀ shared, Held shared w ws ↔ K shared)
    (h : syncWith runTensors e w reloadEnv inputs outputs = .ok (ret, e', w')) :
    ∃ ws, Wrote (e, w) (e', w') ws ∧
      ∀ shared, Held shared w ws ↔ (e.AsksAtOnce inputs outputs → K shared) := by
  have hnothing : ∀ {e₁ : NNExecutor} {w₁ : World}, Wrote (e, w) (e₁, w₁) [] →
      ¬ e.AsksAtOnce inputs outputs → ∃ ws, Wrote (e, w) (e₁, w₁) ws ∧
        ∀ shared, Held shared w ws ↔ (e.AsksAtOnce inputs outputs → K shared) := by
    intro e₁ w₁ hwrote hnot
    exact ⟨[], hwrote, fun shared => ⟨fun _ hasks => absurd hasks hnot, fun _ u hu => by cases hu⟩⟩
  unfold syncWith at h
  split at h
  · cases h
  dsimp only at h
  split at h
  · rename_i hinputs
    cases h
    exact hnothing (wrote_nothing rfl rfl) fun hasks => hinputs hasks.1
  split at h
  · rename_i houtputs
    cases h
    exact hnothing (wrote_nothing rfl rfl) fun hasks => houtputs hasks.2.1
  rename_i hinputs houtputs
  split at h
  · rename_i hmodel
    obtain ⟨ws, hwrote, hheld⟩ := honce _ _ _ h
    refine ⟨ws, hwrote.of_handler, fun shared => ?_⟩
    rw [hheld shared]
    exact ⟨fun hK _ => hK, fun hK => hK ⟨not_not.mp hinputs, not_not.mp houtputs, hmodel⟩⟩
  · -- A reload replaces the references, so what is written then is written elsewhere.
    rename_i hmodel
    have hnot : ¬ e.AsksAtOnce inputs outputs := fun hasks => hmodel hasks.2.2
    unfold reloadAndRun at h
    split at h
    · cases h
    · rename_i e₁ w₁ hauto
      obtain ⟨ws, hrun⟩ := hany _ _ _ _ _ h
      exact hnothing (wrote_reloaded (autoReload_success hauto).1 hrun).of_handler hnot
    · rename_i hret hauto
      obtain ⟨-, ret₁, -, hreload⟩ := autoReload_failed hauto hret
      cases h
      exact hnothing (reload_wrote hreload).of_handler hnot

/-- A call that neither writes nor reports anything. -/
theorem keeps_of_same (hdescs : w'.descs = w.descs)
    (hrefs : e'.outputTensorDescs = e.outputTensorDescs) :
    ∃ ws, Wrote (e, w) (e', w') ws ∧ ∀ shared, Held shared w ws ↔ True :=
  ⟨[], wrote_nothing hdescs hrefs, fun _ => ⟨fun _ => trivial, fun _ u hu => by cases hu⟩⟩

theorem keeps_of_sameBut (hsame : SameBut w w')
    (hrefs : e'.outputTensorDescs = e.outputTensorDescs) :
    ∃ ws, Wrote (e, w) (e', w') ws ∧ ∀ shared, Held shared w ws ↔ True := by
  refine keeps_of_same ?_ hrefs
  rw [hsame]

/-- `RunSync`: the run writes what the device has reported, also when it reloads first. -/
theorem runSync_wrote {reloadEnv : ReloadEnv} {inputs outputs : List (Option Nat)}
    (h : ExecutorCall.perform e w env (.runSync reloadEnv inputs outputs) = .ok (ret, e', w')) :
    ∃ ws, Wrote (e, w) (e', w') ws ∧ ∀ shared, Held shared w ws ↔
      KeepsShapes shared (e, w) (env, .runSync reloadEnv inputs outputs) := by
  have hwrote := syncWith_wrote
    (fun e₁ w₁ ret₁ e₂ w₂ hrun => (tensorsWith_wrote setSyncDims_writes hrun).imp fun _ => And.left)
    (fun ret₁ e₁ w₁ hrun => tensorsWith_wrote setSyncDims_writes hrun) h
  obtain ⟨ws, hwrote, hheld⟩ := hwrote
  refine ⟨ws, hwrote, fun shared => ?_⟩
  rw [hheld shared]
  constructor
  · rintro hkeeps ⟨hinputs, houtputs, hmodel, hready, hanswers⟩
    exact hkeeps ⟨hinputs, houtputs, hmodel⟩ hready hanswers
  · rintro hkeeps ⟨hinputs, houtputs, hmodel⟩ hready hanswers
    exact hkeeps ⟨hinputs, houtputs, hmodel, hready, hanswers⟩

/-- `RunSyncWithAipp`: the same, with the aipp string set. -/
theorem runSyncWithAipp_wrote {reloadEnv : ReloadEnv} {inputs outputs : List (Option Nat)}
    (h : ExecutorCall.perform e w env (.runSyncWithAipp reloadEnv inputs outputs)
      = .ok (ret, e', w')) :
    ∃ ws, Wrote (e, w) (e', w') ws ∧ ∀ shared, Held shared w ws ↔
      KeepsShapes shared (e, w) (env, .runSyncWithAipp reloadEnv inputs outputs) := by
  by_cases hset : env.setAippString = .success
  · have htensors : ∀ (e₁ : NNExecutor) w₁ ret₁ e₂ w₂,
        e₁.runAippTensors w₁ env inputs outputs = .ok (ret₁, e₂, w₂) →
        e₁.tensorsWith aippDims w₁ env inputs outputs = .ok (ret₁, e₂, w₂) := by
      intro e₁ w₁ ret₁ e₂ w₂ hrun
      rwa [runAippTensors_eq _ _ _ _ _ hset] at hrun
    have hwrote := syncWith_wrote
      (fun e₁ w₁ ret₁ e₂ w₂ hrun =>
        (tensorsWith_wrote aippDims_writes (htensors _ _ _ _ _ hrun)).imp fun _ => And.left)
      (fun ret₁ e₁ w₁ hrun => tensorsWith_wrote aippDims_writes (htensors _ _ _ _ _ hrun)) h
    obtain ⟨ws, hwrote, hheld⟩ := hwrote
    refine ⟨ws, hwrote, fun shared => ?_⟩
    rw [hheld shared]
    constructor
    · rintro hkeeps - ⟨hinputs, houtputs, hmodel, hready, hanswers⟩
      exact hkeeps ⟨hinputs, houtputs, hmodel⟩ hready hanswers
    · rintro hkeeps ⟨hinputs, houtputs, hmodel⟩ hready hanswers
      exact hkeeps hset ⟨hinputs, houtputs, hmodel, hready, hanswers⟩
  · -- Without the string the device is not asked.
    have hsame : ∀ e₁ w₁ ret₁ e₂ w₂, NNExecutor.runAippTensors e₁ w₁ env inputs outputs
        = .ok (ret₁, e₂, w₂) → ∃ ws, Wrote (e₁, w₁) (e₂, w₂) ws ∧
          ∀ shared, Held shared w₁ ws ↔ True := by
      intro e₁ w₁ ret₁ e₂ w₂ hrun
      obtain ⟨-, rfl, rfl⟩ := runAippTensors_unset _ _ _ hset hrun
      exact keeps_of_same rfl rfl
    have hwrote := syncWith_wrote
      (fun e₁ w₁ ret₁ e₂ w₂ hrun => (hsame _ _ _ _ _ hrun).imp fun _ => And.left)
      (fun ret₁ e₁ w₁ hrun => hsame _ _ _ _ _ hrun) h
    obtain ⟨ws, hwrote, hheld⟩ := hwrote
    refine ⟨ws, hwrote, fun shared => ?_⟩
    rw [hheld shared]
    exact ⟨fun _ hset' => absurd hset' hset, fun _ _ => trivial⟩

/-- **What any call does** to the descriptions, and when that is nothing. -/
theorem perform_wrote {call : ExecutorCall} (h : call.perform e w env = .ok (ret, e', w')) :
    ∃ ws, Wrote (e, w) (e', w') ws ∧
      ∀ shared, Held shared w ws ↔ KeepsShapes shared (e, w) (env, call) := by
  cases call with
  | run => exact run_wrote h
  | runSync reloadEnv inputs outputs => exact runSync_wrote h
  | runSyncWithAipp reloadEnv inputs outputs => exact runSyncWithAipp_wrote h
  -- Setting tensors touches the entries, not the references to the descriptions.
  | setInput index nnTensor buffer length =>
    obtain ⟨hrest, hsame⟩ := (setInput_inputSet h).rest
    exact keeps_of_sameBut hsame (by rw [hrest])
  | setInputFromMemory index nnTensor memory =>
    obtain ⟨hrest, hsame⟩ := (setInputFromMemory_inputMemorySet h).rest
    exact keeps_of_sameBut hsame (by rw [hrest])
  | setOutput index buffer length =>
    obtain ⟨hrest, hsame⟩ := (setOutput_outputSet h).rest
    exact keeps_of_sameBut hsame (by rw [hrest])
  | setOutputFromMemory index memory =>
    obtain ⟨hrest, hsame⟩ := (setOutputFromMemory_outputMemorySet h).rest
    exact keeps_of_sameBut hsame (by rw [hrest])
  | getInputDimRange inputIndex args =>
    unfold ExecutorCall.perform at h
    dsimp only at h
    split at h
    · cases h
    · rename_i hrange
      cases h
      obtain ⟨mins, maxs, rfl⟩ := getInputDimRange_vecs hrange
      exact keeps_of_same rfl rfl
  | createInputMemory | createOutputMemory | destroyInputMemory | destroyOutputMemory =>
    cases h
    exact keeps_of_same rfl rfl
  | setExtensionConfig configs =>
    obtain ⟨config, hrest⟩ := e.setExtensionConfig_rest env configs
    have hstate : e' = (e.setExtensionConfig env configs).2 ∧ w' = w := state_of_ok h
    exact keeps_of_same (by rw [hstate.2]) (by rw [hstate.1, hrest])
  | deinitModel mode =>
    obtain ⟨model, handler, hrest⟩ := e.deinitModel_rest env mode
    have hstate : e' = (e.deinitModel env mode).2 ∧ w' = w := state_of_ok h
    exact keeps_of_same (by rw [hstate.2]) (by rw [hstate.1, hrest])
  | autoUnload =>
    obtain ⟨model, handler, hrest⟩ := e.autoUnload_rest env
    have hstate : e' = e.autoUnload env ∧ w' = w := state_of_ok h
    exact keeps_of_same (by rw [hstate.2]) (by rw [hstate.1, hrest])
  | destroyPreparedModel =>
    obtain ⟨model, handler, hrest⟩ := e.destroyPreparedModel_rest
    have hstate : e' = e.destroyPreparedModel.2 ∧ w' = w := state_of_ok h
    exact keeps_of_same (by rw [hstate.2]) (by rw [hstate.1, hrest])

end Wrote

/-! ## Observations -/

/-- The code of an outcome. -/
def codeOf (outcome : Outcome) : Except Fault ReturnCode :=
  outcome.map Prod.fst

/-- What can be seen through an executor is the same in both worlds. -/
structure SameObservations (e : NNExecutor) (w w' : World) : Prop where
  getOutputShape : ∀ outputIndex, e.getOutputShape w' outputIndex = e.getOutputShape w outputIndex
  createOutputTensorDesc : ∀ created index,
    e.createOutputTensorDesc w' created index = e.createOutputTensorDesc w created index
  setOutput : ∀ env index buffer length,
    codeOf (e.setOutput w' env index buffer length) = codeOf (e.setOutput w env index buffer length)
  setOutputFromMemory : ∀ env index memory,
    codeOf (e.setOutputFromMemory w' env index memory)
      = codeOf (e.setOutputFromMemory w env index memory)

section Observations

variable {e : NNExecutor} {w w' : World}

/-- Whether a buffer can be allocated has nothing to do with the world. -/
theorem codeOf_setOutputBuffer (e : NNExecutor) (w w' : World) (env : ExecutorEnv) (index : Nat)
    (x : ExeTensor) (buffer : Option Nat) (length : Nat) :
    codeOf (e.setOutputBuffer w' env index x buffer length)
      = codeOf (e.setOutputBuffer w env index x buffer length) := by
  unfold setOutputBuffer
  split
  · rfl
  split
  · rfl
  · rfl

theorem codeOf_setOutputMemory (e : NNExecutor) (w w' : World) (index : Nat) (x : ExeTensor)
    (memory : OHNNMemory) :
    codeOf (e.setOutputMemory w' index x memory) = codeOf (e.setOutputMemory w index x memory) := by
  unfold setOutputMemory
  split
  · rfl
  · rfl

/-- **What an executor shows** is what is behind its references. -/
theorem sameObservations_iff : SameObservations e w w' ↔
    ∀ ref ∈ e.outputTensorDescs.map Prod.fst, w'.desc ref = w.desc ref := by
  constructor
  · intro h ref href
    obtain ⟨⟨ref, type⟩, hmem, rfl⟩ := List.mem_map.mp href
    obtain ⟨index, hindex⟩ := List.mem_iff_getElem?.mp hmem
    have hdesc := h.createOutputTensorDesc true index
    unfold createOutputTensorDesc at hdesc
    rw [hindex] at hdesc
    exact Option.some.inj hdesc
  · intro h
    have hindex : ∀ {index ref : Nat} {type : UInt32}, e.outputTensorDescs[index]? = some (ref, type) →
        w'.desc ref = w.desc ref := by
      intro index ref type hindex
      exact h ref (List.mem_map_of_mem (List.mem_of_getElem? hindex))
    -- Each query reads the one description behind the reference of its index.
    refine ⟨fun index => ?_, fun created index => ?_, fun env index buffer length => ?_,
      fun env index memory => ?_⟩
    · unfold getOutputShape
      split
      · rfl
      · rename_i hdesc
        rw [hindex hdesc]
    · unfold createOutputTensorDesc
      split
      · rfl
      · rename_i hdesc
        rw [hindex hdesc]
    · unfold setOutput
      split
      · rfl
      · rename_i ref type hdesc
        rw [hindex hdesc]
        split
        · split
          · rfl
          split
          · split
            · split
              · rfl
              split
              · rfl
              · exact codeOf_setOutputBuffer _ _ _ _ _ _ _ _
            · exact codeOf_setOutputBuffer _ _ _ _ _ _ _ _
          · split
            · rfl
            · exact codeOf_setOutputBuffer _ _ _ _ _ _ _ _
        · rfl
    · unfold setOutputFromMemory
      split
      · rfl
      · rename_i ref type hdesc
        rw [hindex hdesc]
        split
        · split
          · rfl
          split
          · split
            · split
              · rfl
              · exact codeOf_setOutputMemory _ _ _ _ _ _
            · exact codeOf_setOutputMemory _ _ _ _ _ _
          · split
            · rfl
            · exact codeOf_setOutputMemory _ _ _ _ _ _
        · rfl

end Observations

/-! ## Whole runs -/

/-- A description of the compiled model, as one of its outputs. -/
def SharedBy (c : NNCompiler Nat) (ref : Nat) : Prop :=
  ref ∈ c.outputTensorDescs.map Prod.fst

/-- An executor refers to the descriptions of the compiled model, or after a reload
to others. -/
structure Refers (c : NNCompiler Nat) (w : World) (s : NNExecutor × World) : Prop where
  nodup : (s.1.outputTensorDescs.map Prod.fst).Nodup
  grown : w.descs.length ≤ s.2.descs.length
  refs : s.1.outputTensorDescs = c.outputTensorDescs ∨
    ∀ ref ∈ s.1.outputTensorDescs.map Prod.fst, w.descs.length ≤ ref

/-- The descriptions of the compiled model are as they were. -/
def Unchanged (c : NNCompiler Nat) (w : World) (s : NNExecutor × World) : Prop :=
  ∀ ref, SharedBy c ref → s.2.descs[ref]? = w.descs[ref]?

section Runs

variable {c : NNCompiler Nat} {w : World} {s s' : NNExecutor × World}
  {ws : List (Nat × List Int32)}

theorem Refers.wrote (h : Refers c w s) (hwrote : Wrote s s' ws) : Refers c w s' := by
  rcases hwrote.refs with hsame | ⟨hnodup, hnew⟩
  · refine ⟨?_, h.grown.trans hwrote.grown, ?_⟩
    · rw [hsame]
      exact h.nodup
    · rw [hsame]
      exact h.refs
  · exact ⟨hnodup, h.grown.trans hwrote.grown, Or.inr fun ref href => h.grown.trans (hnew ref href)⟩

/-- **One call** leaves the shared descriptions as they are iff what it writes to
them is there already. -/
theorem Refers.unchanged_iff (h : Refers c w s) (hshared : ∀ ref, SharedBy c ref →
    ref < w.descs.length) (hs : Unchanged c w s) (hwrote : Wrote s s' ws) :
    Unchanged c w s' ↔ Held (SharedBy c) s.2 ws := by
  have hlt : ∀ {ref}, SharedBy c ref → ref < s.2.descs.length :=
    fun href => lt_of_lt_of_le (hshared _ href) h.grown
  have hnodup : (ws.map Prod.fst).Nodup := hwrote.named.sublist.nodup h.nodup
  have hkept := @Cells.updateAll_kept_iff _ _ TensorDesc.reshape ws hnodup s.2.descs (SharedBy c)
  have hunchanged : Unchanged c w s' ↔ ∀ ref, SharedBy c ref →
      (Cells.updateAll TensorDesc.reshape s.2.descs ws)[ref]? = s.2.descs[ref]? := by
    refine forall_congr' fun ref => forall_congr' fun href => ?_
    rw [hwrote.descs ref (hlt href), ← hs ref href]
  rw [hunchanged, hkept]
  refine forall_congr' fun u => forall_congr' fun hu => forall_congr' fun href => ?_
  have hdesc : s.2.descs[u.1]? = some (s.2.desc u.1) := by
    rw [World.desc, List.getD_eq_getElem?_getD, List.getElem?_eq_getElem (hlt href)]
    rfl
  rw [← TensorDesc.reshape_eq_self_iff (hwrote.accepted u hu)]
  constructor
  · intro hsame
    exact hsame _ hdesc
  · intro hsame a ha
    rw [hdesc] at ha
    cases ha
    exact hsame

theorem Refers.invariant {call : ExecutorEnv × ExecutorCall} (h : Refers c w s)
    (hstep : step s call = .ok s') : Refers c w s' := by
  obtain ⟨ret, hperform⟩ := step_eq_ok hstep
  obtain ⟨ws, hwrote, -⟩ := perform_wrote hperform
  exact h.wrote hwrote

/-- An executor has the references of the compiler that created it. -/
theorem createExecutor_refs {e : NNExecutor} {created : Bool}
    (h : c.createExecutor created = some e) : e.outputTensorDescs = c.outputTensorDescs := by
  unfold NNCompiler.createExecutor at h
  split at h
  · cases h
  split at h
  · cases h
  split at h
  · cases h
  split at h
  · cases h
    rfl
  · cases h

/-- **What any calls do** to executors of the same compiled model: nothing, all the
way, iff every run writes the shapes that are there. -/
theorem observations_iff {c : NNCompiler TensorDesc} {w : World} {e₁ : NNExecutor}
    {calls : List (ExecutorEnv × ExecutorCall)}
    (hcreate : (c.share w).1.createExecutor true = some e₁)
    (hexec : Run.exec step (e₁, (c.share w).2) calls = .ok s') :
    (∀ before, before <+: calls → ∀ s, Run.exec step (e₁, (c.share w).2) before = .ok s →
      ∀ e₂ : NNExecutor, e₂.outputTensorDescs = (c.share w).1.outputTensorDescs →
        SameObservations e₂ (c.share w).2 s.2) ↔
      Run.Meets step (KeepsShapes (SharedBy (c.share w).1)) (e₁, (c.share w).2) calls := by
  have hrefs : (c.share w).1.outputTensorDescs
      = ((w.createDescs c.inputTensorDescs).2.createDescs c.outputTensorDescs).1 := rfl
  have hshared : ∀ ref, SharedBy (c.share w).1 ref → ref < (c.share w).2.descs.length := by
    intro ref href
    unfold SharedBy at href
    rw [hrefs] at href
    exact (le_of_mem_createDescs href).2
  have hrefers : Refers (c.share w).1 (c.share w).2 (e₁, (c.share w).2) := by
    refine ⟨?_, le_refl _, Or.inl (createExecutor_refs hcreate)⟩
    show (e₁.outputTensorDescs.map Prod.fst).Nodup
    rw [createExecutor_refs hcreate, hrefs]
    exact createDescs_nodup _ _
  -- The invariant: the references stay, and the shared descriptions are not taken away.
  rw [← Run.prefixes_iff_meets (I := Refers (c.share w).1 (c.share w).2)
    (P := Unchanged (c.share w).1 (c.share w).2) (fun s call s' hs h => hs.invariant h)
    (fun s call s' hs hsame h => ?_) hrefers (fun _ _ => rfl) hexec]
  · refine forall_congr' fun before => forall_congr' fun hbefore => forall_congr' fun s =>
      forall_congr' fun hs => ?_
    have hend : Refers (c.share w).1 (c.share w).2 s :=
      Run.exec_invariant (fun s call s' hs h => hs.invariant h) hrefers hs
    constructor
    · intro hsame ref href
      have hdesc := sameObservations_iff.mp (hsame e₁ (createExecutor_refs hcreate)) ref (by
        rw [createExecutor_refs hcreate]
        exact href)
      have hlt := hshared ref href
      have hlt' : ref < s.2.descs.length := lt_of_lt_of_le hlt hend.grown
      unfold World.desc at hdesc
      rw [List.getD_eq_getElem?_getD, List.getD_eq_getElem?_getD, List.getElem?_eq_getElem hlt,
        List.getElem?_eq_getElem hlt'] at hdesc
      rw [List.getElem?_eq_getElem hlt, List.getElem?_eq_getElem hlt']
      exact congrArg some hdesc
    · intro hsame e₂ he₂
      refine sameObservations_iff.mpr fun ref href => ?_
      rw [he₂] at href
      unfold World.desc
      rw [List.getD_eq_getElem?_getD, List.getD_eq_getElem?_getD, hsame ref href]
  · obtain ⟨ret, hperform⟩ := step_eq_ok h
    obtain ⟨ws, hwrote, hheld⟩ := perform_wrote hperform
    rw [hs.unchanged_iff hshared hsame hwrote]
    exact hheld _

/-- The input and the output of a model with a dynamic output are set. -/
def setDynamic : List (ExecutorEnv × ExecutorCall) :=
  [({}, .setInput 0 { dataType := some .float32, dimensions := .array [2] }
      (some [1, 2, 3, 4, 5, 6, 7, 8]) 8),
    ({}, .setOutput 0 (some 0) 16)]

/-- The device reports four floats. -/
def fourReported : ExecutorEnv where
  run := { outputsDims := [[4]] }

/-- Both kinds of runs, with a device that reports the shape that is there. -/
def heldRuns : List (ExecutorEnv × ExecutorCall) :=
  let env : ExecutorEnv := { run := { outputsDims := [[2]] } }
  let reloadEnv : ReloadEnv :=
    { cache := { codec := .compact, backend := none }
      fs := FileSystem.single "/data" dataDir_ne }
  [({}, .setInput 0 { dataType := some .float32, dimensions := .array [2] }
      (some [1, 2, 3, 4, 5, 6, 7, 8]) 8),
    ({}, .setOutput 0 (some 0) 8),
    (env, .run),
    (env, .runSync reloadEnv [some 0] [some 0])]

/-- A tensor of the user for those runs. -/
def oneTensor : World where
  tensors := [{ tensorDesc := some (.floats 2), size := 8 }]

/-- An executor of a model with an output of a fixed shape. -/
def heldExecutor : NNExecutor :=
  .create ((smallCompiler [2]).share oneTensor).1 ⟨0, (.success, []), .success⟩

/-- Nothing is seen of them: in every state on the way the description is what it was. -/
theorem observations_iff_held :
    ((smallCompiler [2]).share oneTensor).1.createExecutor true = some heldExecutor ∧
    (∃ s', Run.exec step (heldExecutor, ((smallCompiler [2]).share oneTensor).2) heldRuns = .ok s' ∧
      s'.2.runs.length = 2) ∧
    Run.Meets step (KeepsShapes (SharedBy ((smallCompiler [2]).share oneTensor).1))
      (heldExecutor, ((smallCompiler [2]).share oneTensor).2) heldRuns := by
  have hcreate : ((smallCompiler [2]).share oneTensor).1.createExecutor true = some heldExecutor :=
    rfl
  obtain ⟨s', hexec, hruns⟩ : ∃ s', Run.exec step
      (heldExecutor, ((smallCompiler [2]).share oneTensor).2) heldRuns = .ok s' ∧
        s'.2.runs.length = 2 := ⟨_, rfl, rfl⟩
  have hstates : ∀ n < 5, ∃ t, Run.exec step
      (heldExecutor, ((smallCompiler [2]).share oneTensor).2) (heldRuns.take n) = .ok t ∧
        t.2.desc 1 = ((smallCompiler [2]).share oneTensor).2.desc 1 := by
    intro n hn
    rcases n with _ | _ | _ | _ | _ | n
    · exact ⟨_, rfl, rfl⟩
    · exact ⟨_, rfl, rfl⟩
    · exact ⟨_, rfl, rfl⟩
    · exact ⟨_, rfl, rfl⟩
    · exact ⟨_, rfl, rfl⟩
    · omega
  refine ⟨hcreate, ⟨s', hexec, hruns⟩, (observations_iff hcreate hexec).mp ?_⟩
  intro before hbefore s hs e₂ he₂
  refine sameObservations_iff.mpr fun ref href => ?_
  rw [he₂] at href
  obtain rfl : ref = 1 := List.mem_singleton.mp href
  obtain ⟨t, ht, hdesc⟩ := hstates before.length (Nat.lt_succ_of_le hbefore.length_le)
  rw [← List.prefix_iff_eq_take.mp hbefore, hs] at ht
  cases ht
  exact hdesc

/-- **A run is seen**: the shape of a dynamic output becomes the reported one for
another executor as well. -/
theorem run_seen : ∃ e₁ e₂ s',
    ((smallCompiler [-1]).share {}).1.createExecutor true = some e₁ ∧
    ((smallCompiler [-1]).share {}).1.createExecutor true = some e₂ ∧
    Run.exec step (e₁, ((smallCompiler [-1]).share {}).2) (setDynamic ++ [(fourReported, .run)])
      = .ok s' ∧
    e₂.getOutputShape ((smallCompiler [-1]).share {}).2 0 = (.success, some [-1]) ∧
    e₂.getOutputShape s'.2 0 = (.success, some [4]) :=
  ⟨_, _, _, rfl, rfl, rfl, rfl, rfl⟩

end Runs

end NNExecutor

end NNRt
