import NNRt.Executor.Deref
import NNRt.Executor.Sync

/-!
# Reported dimensions and the buffers they are for

After a run the device reports the dimensions of the outputs. `RunSync` writes them
to the descriptions of the user's tensors, `Run` to the executor's own tensors; the
comments there say that this checks whether the buffers are large enough.

- `setSyncDims_tensors`: a tensor gets the last dimensions that are reported for it.
- `syncFits_iff` / `memoryFits_iff`: **when the outputs fit their buffers** after a
  successful run: when the reported dimensions do. Nothing looks at the buffers, or
  at the flags that say that a buffer was too small.
- `outputs_exceed`: successful runs whose outputs are larger than their buffers.
-/

namespace NNRt

/-- The bytes of a description with another shape. -/
def TensorDesc.bytesWith (desc : TensorDesc) (dims : List Int32) : UInt64 :=
  (desc.setShape dims).2.getByteSize.2

/-- Only the last shape stays. -/
theorem TensorDesc.setShape_setShape {desc desc₁ desc₂ : TensorDesc} {dims₁ dims₂ : List Int32}
    (h₁ : desc.setShape dims₁ = (.success, desc₁)) (h₂ : desc₁.setShape dims₂ = (.success, desc₂)) :
    desc.setShape dims₂ = (.success, desc₂) := by
  unfold setShape at h₁ h₂ ⊢
  split at h₁
  · cases h₁
  cases h₁
  split at h₂
  · cases h₂
  rename_i hlength
  cases h₂
  rw [dif_neg hlength]

namespace NNExecutor

/-- The last dimensions reported for the tensor at an address. -/
def lastReported (address : Nat) : List (Option Nat) → List (List Int32) → Option (List Int32)
  | output :: outputs, dims :: outputsDims =>
    match lastReported address outputs outputsDims with
    | some dims => some dims
    | none => if output = some address then some dims else none
  | _, _ => none

/-- After `RunSync`: every output fits the room behind the offset of its tensor, and
the device has not reported that the room was too small. -/
def SyncFits (w : World) (outputs : List (Option Nat)) (reply : RunReply) : Prop :=
  ∀ (i address : Nat), outputs[i]? = some (some address) →
    (∃ t desc, w.tensors[address]? = some t ∧ t.tensorDesc = some desc ∧
      desc.getByteSize.2 ≤ t.size - t.offset) ∧
    reply.isSufficientDataBuffer[i]? ≠ some false

/-- What the device reports fits the tensors it is reported for, and it reports no
buffer that is too small. -/
def ReportFits (w : World) (outputs : List (Option Nat)) (reply : RunReply) : Prop :=
  ∀ (i address : Nat), outputs[i]? = some (some address) →
    (∀ t desc dims, w.tensors[address]? = some t → t.tensorDesc = some desc →
      lastReported address outputs reply.outputsDims = some dims →
      desc.bytesWith dims ≤ t.size - t.offset) ∧
    reply.isSufficientDataBuffer[i]? ≠ some false

/-- After `Run`: every output that `SetOutputFromMemory` has set fits its memory. No
other call puts an address of the user into an output. -/
def MemoryFits (e : NNExecutor) : Prop :=
  ∀ (i : Nat) (x : ExeTensor) (t : NNTensor Address) (address : Nat),
    e.outputTensors.lookup i = some x → x.tensor = some t → t.buffer = some (.user address) →
    t.dataLength ≤ t.bufferLength

/-- What the device reports fits the memory of the user. -/
def ReportFitsMemory (e : NNExecutor) (reply : RunReply) : Prop :=
  ∀ (i : Nat) (x : ExeTensor) (t : NNTensor Address) (address : Nat) (dims : List Int32),
    e.outputTensors.lookup i = some x → x.tensor = some t → t.buffer = some (.user address) →
    reply.outputsDims[i]? = some dims → (t.setDimensions dims).2.dataLength ≤ t.bufferLength

section Sync

variable {e e' : NNExecutor} {w w' : World} {ret : ReturnCode}

theorem setTensorShape_success {address : Nat} {dims : List Int32}
    (h : setTensorShape w address dims = .ok (.success, w')) :
    ∃ t desc desc', w.tensors[address]? = some t ∧ t.tensorDesc = some desc ∧
      desc.setShape dims = (.success, desc') ∧
      w'.tensors = w.tensors.set address { t with tensorDesc := some desc' } := by
  unfold setTensorShape at h
  split at h
  · cases h
  rename_i t ht
  split at h
  · cases h
  rename_i desc hdesc
  split at h
  · rename_i desc' hshape
    cases h
    exact ⟨t, desc, desc', ht, hdesc, hshape, rfl⟩
  · rename_i hret _
    exact absurd h (ok_code_ne hret)

/-- The tensor at an address after all the dimensions have been set: it has the last
ones reported for it. -/
theorem setSyncDims_tensors {addresses : List Nat} {refs : DescRefs} {outputsDims : List (List Int32)}
    (h : setSyncDims w addresses refs outputsDims = .ok (.success, w')) (address : Nat) :
    match lastReported address (addresses.map some) outputsDims with
    | none => w'.tensors[address]? = w.tensors[address]?
    | some dims => ∃ t desc desc', w.tensors[address]? = some t ∧ t.tensorDesc = some desc ∧
        desc.setShape dims = (.success, desc') ∧
        w'.tensors[address]? = some { t with tensorDesc := some desc' } := by
  induction addresses generalizing w refs outputsDims with
  | nil =>
    cases h
    rfl
  | cons first addresses ih =>
    cases outputsDims with
    | nil =>
      cases h
      rfl
    | cons dims outputsDims =>
      unfold setSyncDims at h
      split at h
      · cases h
      · rename_i w₁ hshape
        obtain ⟨t, desc, desc₁, ht, hdesc, hset, htensors⟩ := setTensorShape_success hshape
        have hlt : first < w.tensors.length := (List.getElem?_eq_some_iff.mp ht).1
        split at h
        · cases h
        split at h
        · -- What the rest reports for the same tensor is what stays.
          have hrest := ih h
          dsimp only [World.setDesc] at hrest
          rw [htensors] at hrest
          show match (match lastReported address (addresses.map some) outputsDims with
            | some dims => some dims
            | none => if some first = some address then some dims else none) with
            | none => w'.tensors[address]? = w.tensors[address]?
            | some dims => ∃ t desc desc', w.tensors[address]? = some t ∧
                t.tensorDesc = some desc ∧ desc.setShape dims = (.success, desc') ∧
                w'.tensors[address]? = some { t with tensorDesc := some desc' }
          by_cases hfirst : first = address
          · subst hfirst
            rw [List.getElem?_set_self hlt] at hrest
            cases hlast : lastReported first (addresses.map some) outputsDims with
            | none =>
              rw [hlast] at hrest
              dsimp only
              rw [if_pos rfl]
              exact ⟨t, desc, desc₁, ht, hdesc, hset, hrest⟩
            | some last =>
              rw [hlast] at hrest
              obtain ⟨t₁, desc₂, desc', ht₁, hdesc₂, hset', hend⟩ := hrest
              cases ht₁
              cases hdesc₂
              exact ⟨t, desc, desc', ht, hdesc, TensorDesc.setShape_setShape hset hset', hend⟩
          · rw [List.getElem?_set_ne hfirst] at hrest
            cases hlast : lastReported address (addresses.map some) outputsDims with
            | none =>
              rw [hlast] at hrest
              dsimp only
              rw [if_neg fun heq => hfirst (Option.some.inj heq)]
              exact hrest
            | some last =>
              rw [hlast] at hrest
              exact hrest
        · rename_i hret _
          exact absurd h (ok_code_ne hret)
      · rename_i hret _
        exact absurd h (ok_code_ne hret)

/-- Something is reported for every output. -/
theorem lastReported_isSome {i address : Nat} {outputs : List (Option Nat)}
    {outputsDims : List (List Int32)} (h : outputs[i]? = some (some address))
    (hi : i < outputsDims.length) : (lastReported address outputs outputsDims).isSome := by
  induction outputs generalizing i outputsDims with
  | nil => cases h
  | cons output outputs ih =>
    cases outputsDims with
    | nil => cases hi
    | cons dims outputsDims =>
      unfold lastReported
      cases i with
      | zero =>
        rw [List.getElem?_cons_zero, Option.some.injEq] at h
        split
        · rfl
        · rw [if_pos h]
          rfl
      | succ i =>
        rw [List.getElem?_cons_succ] at h
        have hlast := ih h (by simpa using hi)
        split
        · rfl
        · rename_i hnone
          rw [hnone] at hlast
          cases hlast

/-- A reload does not touch the tensors of the user. -/
theorem reload_tensors {env : ReloadEnv} (h : e.reload w env = .ok (ret, e', w')) :
    w'.tensors = w.tensors := by
  cases reload_reloaded h with
  | refused => rfl
  | unprepared => rfl
  | prepared => rfl

/-- What a `RunSync` that succeeds has done to the tensors. -/
theorem runSync_success {env : ExecutorEnv} {reloadEnv : ReloadEnv}
    {inputs outputs : List (Option Nat)}
    (h : e.runSync w env reloadEnv inputs outputs = .ok (.success, e', w')) :
    env.run.outputsDims.length = outputs.length ∧
      ∃ w₁ addresses refs, w₁.tensors = w.tensors ∧ outputs = addresses.map some ∧
        setSyncDims w₁ addresses refs env.run.outputsDims = .ok (.success, w') := by
  have htensors : ∀ {e₀ : NNExecutor} {w₀ : World},
      e₀.runSyncTensors w₀ env inputs outputs = .ok (.success, e', w') →
      env.run.outputsDims.length = outputs.length ∧
        ∃ w₁ addresses refs, w₁.tensors = w₀.tensors ∧ outputs = addresses.map some ∧
          setSyncDims w₁ addresses refs env.run.outputsDims = .ok (.success, w') := by
    intro e₀ w₀ hrun
    rw [runSyncTensors_eq] at hrun
    cases tensorsWith_ran hrun with
    | refused _ hret => exact absurd rfl hret
    | failed _ _ hret => exact absurd rfl hret
    | @reported inputs addresses _ _ _ hanswers houtputs hdims =>
      exact ⟨hanswers.2, askDevice w₀ inputs addresses, addresses, _, rfl, houtputs, hdims⟩
  rw [runSync_eq] at h
  unfold syncWith at h
  split at h
  · cases h
  dsimp only at h
  split at h
  · cases h
  split at h
  · cases h
  split at h
  · exact htensors h
  unfold reloadAndRun at h
  split at h
  · cases h
  · rename_i hreload
    obtain ⟨hlength, w₁, addresses, refs, htensors₁, houtputs, hdims⟩ := htensors h
    have hsame := reload_tensors (autoReload_success hreload).1
    exact ⟨hlength, w₁, addresses, refs, htensors₁.trans hsame, houtputs, hdims⟩
  · rename_i hret _
    exact absurd h (ok_code_ne hret)

/-- **When the outputs of a successful `RunSync` fit**: when what is reported does. -/
theorem syncFits_iff {env : ExecutorEnv} {reloadEnv : ReloadEnv} {inputs outputs : List (Option Nat)}
    (h : e.runSync w env reloadEnv inputs outputs = .ok (.success, e', w')) :
    SyncFits w' outputs env.run ↔ ReportFits w outputs env.run := by
  obtain ⟨hlength, w₁, addresses, refs, htensors, rfl, hdims⟩ := runSync_success h
  refine forall_congr' fun i => forall_congr' fun address => forall_congr' fun houtput => ?_
  have hi : i < env.run.outputsDims.length := by
    rw [hlength]
    exact (List.getElem?_eq_some_iff.mp houtput).1
  obtain ⟨dims, hlast⟩ := Option.isSome_iff_exists.mp (lastReported_isSome houtput hi)
  have hend := setSyncDims_tensors hdims address
  rw [hlast, htensors] at hend
  obtain ⟨t, desc, desc', ht, hdesc, hset, hend⟩ := hend
  have hbytes : desc.bytesWith dims = desc'.getByteSize.2 := by
    rw [TensorDesc.bytesWith, hset]
  constructor
  · rintro ⟨⟨t', desc₁, ht', hdesc₁, hle⟩, hflag⟩
    refine ⟨fun t₀ desc₀ dims₀ ht₀ hdesc₀ hdims₀ => ?_, hflag⟩
    rw [hend] at ht'
    cases ht'
    cases hdesc₁
    rw [ht] at ht₀
    cases ht₀
    rw [hdesc] at hdesc₀
    cases hdesc₀
    rw [hlast] at hdims₀
    cases hdims₀
    rw [hbytes]
    exact hle
  · rintro ⟨hfits, hflag⟩
    refine ⟨⟨_, desc', hend, rfl, ?_⟩, hflag⟩
    rw [← hbytes]
    exact hfits t desc dims ht hdesc hlast

end Sync

section Memory

variable {e e' : NNExecutor} {w w' : World} {env : ExecutorEnv}

/-- Where the tensors of all entries can be listed, the entries are numbered. -/
theorem tensorsOf_lt {xs : AList fun _ : Nat => ExeTensor} {ts : List (NNTensor Address)}
    (h : tensorsOf xs xs.entries.length = some ts) {i : Nat} {x : ExeTensor}
    (hx : xs.lookup i = some x) : i < ts.length := by
  have hlength := tensorsOf_length h
  have hsub : List.range xs.entries.length ⊆ xs.keys := by
    intro k hk
    have hlt : k < ts.length := by
      rw [hlength]
      exact List.mem_range.mp hk
    obtain ⟨y, hy, -⟩ := tensorsOf_getElem? h (List.getElem?_eq_getElem hlt)
    exact AList.mem_keys.mp (AList.lookup_isSome.mp (by rw [hy]; rfl))
  -- As many keys as numbers, and all numbers among them.
  have hperm : (List.range xs.entries.length).Perm xs.keys := by
    refine (List.subperm_of_subset List.nodup_range hsub).perm_of_length_le ?_
    rw [AList.keys, List.keys, List.length_map, List.length_range]
  have hmem : i ∈ xs.keys := AList.mem_keys.mp (AList.lookup_isSome.mp (by rw [hx]; rfl))
  rw [hlength]
  exact List.mem_range.mp (hperm.mem_iff.mpr hmem)

/-- What a `Run` that succeeds has done to the outputs. -/
theorem run_output (h : e.run w env = .ok (.success, e', w')) :
    SameBuffers e e' ∧ ∀ i x, e.outputTensors.lookup i = some x →
      ∃ t t' dims, x.tensor = some t ∧ env.run.outputsDims[i]? = some dims ∧
        t.setDimensions dims = (.success, t') ∧
        e'.outputTensors.lookup i = some { x with tensor := some t' } := by
  have hran := run_ran h
  generalize hret : ReturnCode.success = ret at hran
  cases hran with
  | refused => cases hret
  | failed _ _ hne => exact absurd hret.symm hne
  | dims _ _ _ hne => exact absurd hret.symm hne
  | copied hdescs _ houtputs _ hlength hdims _ =>
    subst hret
    refine ⟨(setOutputDims_sameBuffers (aligned_of_tensorsOf houtputs) hdims).1,
      fun i x hx => ?_⟩
    have hcount := tensorsOf_length houtputs
    have hlt := tensorsOf_lt houtputs hx
    obtain ⟨dims, y, t', hreported, hy, htensor, hset, hend⟩ :=
      setOutputDims_success (aligned_of_tensorsOf houtputs) (by omega) (by omega) hdims
        (List.getElem?_eq_getElem hlt)
    rw [Nat.zero_add] at hy hend
    rw [hx] at hy
    cases hy
    exact ⟨_, t', dims, htensor, hreported, hset, hend⟩

/-- **When the outputs of a successful `Run` fit** the memory of the user. -/
theorem memoryFits_iff (h : e.run w env = .ok (.success, e', w')) :
    MemoryFits e' ↔ ReportFitsMemory e env.run := by
  obtain ⟨hsame, houtput⟩ := run_output h
  constructor
  · intro hfits i x t address dims hx htensor hbuffer hdims
    obtain ⟨t₀, t', dims₀, ht₀, hdims₀, hset, hend⟩ := houtput i x hx
    rw [htensor] at ht₀
    cases ht₀
    rw [hdims] at hdims₀
    cases hdims₀
    have hbuffer' := t.setDimensions_buffer dims
    have hlength := t.setDimensions_bufferLength dims
    rw [hset] at hbuffer' hlength ⊢
    have hle := hfits i _ t' address hend rfl (hbuffer'.trans hbuffer)
    rwa [hlength] at hle
  · intro hfits i x' t' address hx' htensor hbuffer
    have hview := hsame.outputs i
    rw [hx'] at hview
    cases hx : e.outputTensors.lookup i with
    | none =>
      rw [hx] at hview
      cases hview
    | some x =>
      obtain ⟨t₀, t₁, dims, ht₀, hdims, hset, hend⟩ := houtput i x hx
      rw [hx'] at hend
      cases hend
      cases htensor
      have hbuffer' := t₀.setDimensions_buffer dims
      have hlength := t₀.setDimensions_bufferLength dims
      rw [hset] at hbuffer' hlength
      have hle := hfits i x t₀ address dims hx ht₀ (hbuffer'.symm.trans hbuffer) hdims
      rw [hset] at hle
      rw [hlength]
      exact hle

end Memory

/-! ## Both runs -/

/-- **When no output exceeds its buffer** after a successful run: when the reported
dimensions fit the buffers they are for. -/
theorem outputs_fit_iff {e e' f f' : NNExecutor} {w w' v v' : World} {env env' : ExecutorEnv}
    {reloadEnv : ReloadEnv} {inputs outputs : List (Option Nat)}
    (hsync : e.runSync w env reloadEnv inputs outputs = .ok (.success, e', w'))
    (hrun : f.run v env' = .ok (.success, f', v')) :
    (SyncFits w' outputs env.run ↔ ReportFits w outputs env.run) ∧
      (MemoryFits f' ↔ ReportFitsMemory f env'.run) :=
  ⟨syncFits_iff hsync, memoryFits_iff hrun⟩

/-- The device reports dimensions for one output. -/
def reports (dims : List Int32) : ExecutorEnv where
  run := { outputsDims := [dims] }

/-- No cache to reload from. -/
def noReload : ReloadEnv where
  cache := { codec := .compact, backend := none }
  fs := FileSystem.single "/data" dataDir_ne

/-- An executor of the compiled model. -/
def smallExecutor : NNExecutor :=
  .create ((smallCompiler [2]).share {}).1 ⟨0, (.success, []), .success⟩

/-- A user with a tensor of two floats for the input and one for the output. -/
def twoTensors : World :=
  let t : NNTensor2_0 := { tensorDesc := some (.floats 2), size := 8 }
  { ((smallCompiler [2]).share {}).2 with tensors := [t, t] }

/-- The input is set, and the output is memory of the user. -/
def setMemory : List (ExecutorEnv × ExecutorCall) :=
  [({}, .setInput 0 { dataType := some .float32, dimensions := .array [2] }
      (some [1, 2, 3, 4, 5, 6, 7, 8]) 8),
    ({}, .setOutputFromMemory 0 ⟨0, 8⟩)]

/-- A run with either kind of tensors, and what the theorem says of it. -/
theorem outputs_fit_iff_small : ∃ e' w' s f' v',
    smallExecutor.runSync twoTensors (reports [2]) noReload [some 0] [some 1]
      = .ok (.success, e', w') ∧
    Run.exec step (smallExecutor, twoTensors) setMemory = .ok s ∧
    s.1.run s.2 (reports [2]) = .ok (.success, f', v') ∧
    (SyncFits w' [some 1] (reports [2]).run ↔ ReportFits twoTensors [some 1] (reports [2]).run) ∧
    (MemoryFits f' ↔ ReportFitsMemory s.1 (reports [2]).run) := by
  obtain ⟨e', w', hsync⟩ : ∃ e' w', smallExecutor.runSync twoTensors (reports [2]) noReload
      [some 0] [some 1] = .ok (.success, e', w') := ⟨_, _, rfl⟩
  obtain ⟨s, hexec, f', v', hrun⟩ : ∃ s,
      Run.exec step (smallExecutor, twoTensors) setMemory = .ok s ∧
      ∃ f' v', s.1.run s.2 (reports [2]) = .ok (.success, f', v') := ⟨_, rfl, _, _, rfl⟩
  exact ⟨e', w', s, f', v', hsync, hexec, hrun, outputs_fit_iff hsync hrun⟩

/-- **Two floats of room, a hundred floats of output**: both runs succeed. -/
theorem outputs_exceed : ∃ e' w' s f' v',
    smallExecutor.runSync twoTensors (reports [100]) noReload [some 0] [some 1]
      = .ok (.success, e', w') ∧
    ¬ SyncFits w' [some 1] (reports [100]).run ∧
    Run.exec step (smallExecutor, twoTensors) setMemory = .ok s ∧
    s.1.run s.2 (reports [100]) = .ok (.success, f', v') ∧
    ¬ MemoryFits f' := by
  refine ⟨_, _, _, _, _, rfl, fun hfits => ?_, rfl, rfl, fun hfits => ?_⟩
  · obtain ⟨t, desc, ht, hdesc, hle⟩ := (hfits 0 1 rfl).1
    cases ht
    cases hdesc
    exact absurd hle (by decide)
  · exact absurd (hfits 0 _ _ 0 rfl rfl rfl) (by decide)

end NNExecutor

end NNRt
