import NNRt.Executor.Bounds
import NNRt.Executor.Sync

/-!
# Entries without a tensor

`SetInput` and `SetOutput` reach for the entry of an index in their maps before they
know that there is one, or that its tensor can be built. An entry without a tensor
stays, and whoever comes next dereferences it: another setter, `Run` or the destructor.

- `Filled`: every entry has a tensor, and belongs to a description.
- `FilledBelow.present`: then as many entries as descriptions are all of them.
- `setInput_fault_iff` / `setOutput_filled_iff`: when a setter keeps that.
- `filled_iff`: **no run from a new executor meets an entry without a tensor exactly
  if no `SetInput` is for a new input of unknown type, and no new output has a shape
  that is refused or comes when memory is short.**
- `hollow_entries`: two runs that do.
-/

namespace NNRt

/-- `BuildFromTensorDesc` accepts the shape: no dimension is 0 or less than -1, and the
length fits 32 bits. -/
def TensorDesc.Buildable (desc : TensorDesc) : Prop :=
  NNTensor.DimsValid desc.shape ∧
    desc.dataType.typeSize.toNat * NNTensor.dimsProduct desc.shape ≤ 0xffffffff

namespace NNExecutor

/-- Every entry has a tensor. -/
def NoHollow (xs : AList fun _ : Nat => ExeTensor) : Prop :=
  ∀ index x, xs.lookup index = some x → x.tensor.isSome

/-- Every entry has a tensor, and an index below the number of descriptions. -/
def FilledBelow (xs : AList fun _ : Nat => ExeTensor) (count : Nat) : Prop :=
  ∀ index x, xs.lookup index = some x → x.tensor.isSome ∧ index < count

/-- The same of the inputs and the outputs of an executor. -/
structure Filled (e : NNExecutor) : Prop where
  inputs : FilledBelow e.inputTensors e.inputTensorDescs.length
  outputs : FilledBelow e.outputTensors e.outputTensorDescs.length

/-- What follows for `Run` and for the destructor. -/
structure Whole (s : NNExecutor × World) : Prop where
  filled : s.1.Filled
  /-- Where the two checks of the sizes are passed, nothing is missing. -/
  present : s.1.AllSet →
    (∀ index, index < s.1.inputTensorDescs.length → (s.1.inputTensors.lookup index).isSome) ∧
      ∀ index, index < s.1.outputTensorDescs.length → (s.1.outputTensors.lookup index).isSome
  destroys : (s.1.destroy s.2).1 = none

/-! ## Calls -/

/-- The calls that set the tensors and run them. -/
inductive TensorCall
  | setInput (index : Nat) (nnTensor : OHNNTensor) (buffer : Option Bytes) (length : Nat)
  | setInputFromMemory (index : Nat) (nnTensor : OHNNTensor) (memory : OHNNMemory)
  | setOutput (index : Nat) (buffer : Option Nat) (length : Nat)
  | setOutputFromMemory (index : Nat) (memory : OHNNMemory)
  | run
  | runSync (env : ReloadEnv) (inputTensors outputTensors : List (Option Nat))

def TensorCall.call : TensorCall → ExecutorCall
  | .setInput index nnTensor buffer length => .setInput index nnTensor buffer length
  | .setInputFromMemory index nnTensor memory => .setInputFromMemory index nnTensor memory
  | .setOutput index buffer length => .setOutput index buffer length
  | .setOutputFromMemory index memory => .setOutputFromMemory index memory
  | .run => .run
  | .runSync env inputTensors outputTensors => .runSync env inputTensors outputTensors

/-- One of these calls. -/
def tensorStep (s : NNExecutor × World) (call : ExecutorEnv × TensorCall) :
    Except Fault (NNExecutor × World) :=
  step s (call.1, call.2.call)

/-- The call does not dereference a null tensor. -/
def FindsTensors (s : NNExecutor × World) (call : ExecutorEnv × TensorCall) : Prop :=
  tensorStep s call ≠ .error (.nullDeref .tensor)

/-! ## The condition -/

/-- The tensor is in the range of the device and as the model describes it, and there
is memory for it. -/
structure AcceptsInput (e : NNExecutor) (w : World) (env : ExecutorEnv) (index : Nat)
    (nnTensor : OHNNTensor) : Prop where
  inRange : e.checkInputDimRange env index nnTensor = .ok .operationForbidden ∨
    e.checkInputDimRange env index nnTensor = .ok .success
  created : env.createTensor
  built : (e.buildInputTensor w index nnTensor).1 = .success

/-- A new output can be built. -/
def FillsOutput (e : NNExecutor) (w : World) (env : ExecutorEnv) (index length : Nat) : Prop :=
  e.outputTensors.lookup index = none → e.OutputChecked w index length →
    env.createTensor ∧ ∀ ref type, e.outputTensorDescs[index]? = some (ref, type) →
      (w.desc ref).Buildable

/-- The condition on a call. Data of an unknown type has no length, and `SetInput` takes
a buffer that is not there to be large enough for it. -/
def TensorCall.Fills (s : NNExecutor × World) (env : ExecutorEnv) : TensorCall → Prop
  | .setInput index nnTensor _ length =>
    ¬ (s.1.inputTensors.lookup index = none ∧ nnTensor.dataType = some .unknown ∧ length ≠ 0 ∧
      s.1.AcceptsInput s.2 env index nnTensor)
  | .setOutput index _ length => s.1.FillsOutput s.2 env index length
  | .setOutputFromMemory index memory => s.1.FillsOutput s.2 env index memory.length
  | _ => True

/-! ## Filled maps -/

section FilledBelow

variable {xs : AList fun _ : Nat => ExeTensor} {count : Nat}

theorem filledBelow_empty : FilledBelow ∅ count := by
  intro index x hx
  rw [AList.lookup_empty] at hx
  cases hx

theorem FilledBelow.insert (h : FilledBelow xs count) {index : Nat} {x : ExeTensor}
    (hx : x.tensor.isSome) (hindex : index < count) : FilledBelow (xs.insert index x) count := by
  intro i y hy
  by_cases hi : i = index
  · subst hi
    rw [AList.lookup_insert] at hy
    cases hy
    exact ⟨hx, hindex⟩
  · rw [AList.lookup_insert_ne hi] at hy
    exact h i y hy

theorem not_filledBelow_hollow (index : Nat) : ¬ FilledBelow (xs.insert index {}) count := by
  intro h
  have hsome := (h index {} (AList.lookup_insert xs)).1
  cases hsome

/-- **As many entries as descriptions are all of them**: the keys are different numbers
below the count. -/
theorem FilledBelow.present (h : FilledBelow xs count) (hcount : count = xs.entries.length) :
    ∀ index, index < count → (xs.lookup index).isSome := by
  have hbelow : xs.keys ⊆ List.range count := by
    intro index hindex
    obtain ⟨x, hx⟩ := Option.isSome_iff_exists.mp
      (AList.lookup_isSome.mpr (AList.mem_keys.mpr hindex))
    exact List.mem_range.mpr (h index x hx).2
  have hperm : xs.keys.Perm (List.range count) := by
    refine (List.subperm_of_subset xs.keys_nodup hbelow).perm_of_length_le ?_
    rw [List.length_range, hcount, AList.keys, List.keys, List.length_map]
  intro index hindex
  rw [AList.lookup_isSome, AList.mem_keys, hperm.mem_iff]
  exact List.mem_range.mpr hindex

theorem FilledBelow.noHollow (h : FilledBelow xs count) : NoHollow xs :=
  fun index x hx => (h index x hx).1

/-- `Run` finds the tensors exactly if each index has an entry with one. -/
theorem tensorsOf_isSome_iff {n : Nat} :
    (NNExecutor.tensorsOf xs n).isSome ↔
      ∀ index < n, ((xs.lookup index).bind ExeTensor.tensor).isSome := by
  have hrange : (∀ index < n, ((xs.lookup index).bind ExeTensor.tensor).isSome) ↔
      ∀ index ∈ List.range n, ((xs.lookup index).bind ExeTensor.tensor).isSome := by
    simp only [List.mem_range]
  rw [hrange]
  unfold NNExecutor.tensorsOf
  generalize List.range n = indices
  induction indices with
  | nil => exact iff_of_true rfl (List.forall_mem_nil _)
  | cons index indices ih =>
    rw [List.forall_mem_cons, List.mapM_cons]
    refine Iff.trans ?_ (and_congr_right fun _ => ih)
    cases (xs.lookup index).bind ExeTensor.tensor with
    | none => exact iff_of_false nofun fun hboth => nomatch hboth.1
    | some t =>
      cases indices.mapM fun i => (xs.lookup i).bind ExeTensor.tensor with
      | none => exact iff_of_false nofun fun hboth => nomatch hboth.2
      | some ts => exact iff_of_true rfl ⟨rfl, rfl⟩

/-- So it does where nothing is hollow. -/
theorem FilledBelow.tensorsOf (h : FilledBelow xs count) (hcount : count = xs.entries.length) :
    ∃ ts, NNExecutor.tensorsOf xs xs.entries.length = some ts := by
  rw [← Option.isSome_iff_exists, tensorsOf_isSome_iff]
  intro index hindex
  rw [← hcount] at hindex
  obtain ⟨x, hx⟩ := Option.isSome_iff_exists.mp (h.present hcount index hindex)
  rw [hx]
  exact (h index x hx).1

/-- One loop of the destructor. -/
theorem destroyTensors_filled {w : World} {entries : List ExeTensor}
    (h : ∀ x ∈ entries, x.tensor.isSome) : (destroyTensors w entries).1 = none := by
  induction entries generalizing w with
  | nil => rfl
  | cons x entries ih =>
    obtain ⟨hx, hrest⟩ := List.forall_mem_cons.mp h
    obtain ⟨t, ht⟩ := Option.isSome_iff_exists.mp hx
    unfold destroyTensors
    rw [ht]
    exact ih hrest

theorem FilledBelow.entries (h : FilledBelow xs count) :
    ∀ x ∈ xs.entries.map Sigma.snd, x.tensor.isSome := by
  intro x hx
  obtain ⟨⟨index, y⟩, hentry, rfl⟩ := List.mem_map.mp hx
  exact (h index y (AList.mem_lookup_iff.mpr hentry)).1

end FilledBelow

/-- **What is filled is whole.** -/
theorem Filled.whole {e : NNExecutor} (h : e.Filled) (w : World) : Whole (e, w) := by
  refine ⟨h, fun hset => ⟨h.inputs.present hset.1, h.outputs.present hset.2⟩, ?_⟩
  have hinputs := @destroyTensors_filled w _ h.inputs.entries
  unfold destroy
  cases hdestroy : destroyTensors w (e.inputTensors.entries.map Sigma.snd) with
  | mk fault w' =>
    rw [hdestroy] at hinputs
    have hinputs : fault = none := hinputs
    subst hinputs
    exact destroyTensors_filled h.outputs.entries

/-! ## The setters of inputs -/

section Inputs

variable {e e' : NNExecutor} {w w' : World} {env : ExecutorEnv} {ret : ReturnCode}

/-- A tensor that is built for an input belongs to a description. -/
theorem buildInputTensor_index {index : Nat} {nnTensor : OHNNTensor}
    {inputTensor : NNTensor Address}
    (h : e.buildInputTensor w index nnTensor = (.success, inputTensor)) :
    index < e.inputTensorDescs.length := by
  unfold buildInputTensor at h
  split at h
  · cases h
  · rename_i hdesc
    exact (List.getElem?_eq_some_iff.mp hdesc).1

/-- It has no data only if its type is not known: it is not dynamic. -/
theorem buildInputTensor_dataLength {index : Nat} {nnTensor : OHNNTensor}
    {inputTensor : NNTensor Address}
    (h : e.buildInputTensor w index nnTensor = (.success, inputTensor)) :
    inputTensor.dataLength = 0 ↔ nnTensor.dataType = some .unknown := by
  unfold buildInputTensor at h
  split at h
  · cases h
  split at h
  · rename_i t ht
    split at h
    · cases h
    rename_i hstatic
    dsimp only at h
    split at h
    · cases h
    · cases h
      have hlength := NNTensor.buildFromOHNNTensor_dataLength ht (Bool.eq_false_iff.mpr hstatic)
      exact hlength
  · rename_i hret _
    exact absurd h (code_ne hret)

theorem Filled.putInput (h : e.Filled) {index : Nat} {x : ExeTensor} (hx : x.tensor.isSome)
    (hindex : index < e.inputTensorDescs.length) : (e.putInput index x).Filled :=
  ⟨h.inputs.insert hx hindex, h.outputs⟩

theorem InputSet.filled {index : Nat} {nnTensor : OHNNTensor} {buffer : Option Bytes} {length : Nat}
    (h : InputSet e w index nnTensor buffer length ret e' w') (hfilled : e.Filled) : e'.Filled := by
  cases h with
  | refused => exact hfilled
  | uncopied => exact hfilled
  | discarded => exact hfilled
  | reused hx => exact hfilled.putInput rfl (hfilled.inputs index _ hx).2
  | stored hchecked => exact hfilled.putInput rfl (buildInputTensor_index hchecked.1)

theorem InputMemorySet.filled {index : Nat} {nnTensor : OHNNTensor} {memory : OHNNMemory}
    (h : InputMemorySet e w index nnTensor memory ret e' w') (hfilled : e.Filled) : e'.Filled := by
  cases h with
  | refused => exact hfilled
  | stored hchecked => exact hfilled.putInput rfl (buildInputTensor_index hchecked.1)

/-- The entry that is replaced has a tensor. -/
theorem setInputTensorWithNewBuffer_finds (hhollow : NoHollow e.inputTensors) (w : World)
    (index : Nat) (inputTensor : NNTensor Address) (inputBuffer : Address) (length : Nat) (isInnerMem : Bool) :
    ∃ result, e.setInputTensorWithNewBuffer w index inputTensor inputBuffer length isInnerMem
      = .ok result := by
  unfold setInputTensorWithNewBuffer
  dsimp only
  cases hx : e.inputTensors.lookup index with
  | none => exact ⟨_, rfl⟩
  | some x =>
    obtain ⟨t, ht⟩ := Option.isSome_iff_exists.mp (hhollow index x hx)
    dsimp only
    rw [ht]
    exact ⟨_, rfl⟩

/-- A new buffer is allocated and filled before the entry is looked at. -/
theorem storeInput_allocates_finds (hhollow : NoHollow e.inputTensors) (w : World)
    (env : ExecutorEnv) {index : Nat} {inputTensor : NNTensor Address} (buffer : Option Bytes) (length : Nat)
    (hcur : ¬ inputTensor.dataLength ≤ e.curBufferLength index) :
    e.storeInput w env index inputTensor buffer length ≠ .error (.nullDeref .tensor) := by
  unfold storeInput
  dsimp only
  rw [if_neg hcur]
  split
  · nofun
  split
  · nofun
  · rename_i w₁ _
    obtain ⟨result, hresult⟩ := setInputTensorWithNewBuffer_finds hhollow w₁ index inputTensor
      (.inner w.nextBuffer) length true
    rw [hresult]
    nofun

/-- **The end of `SetInput`** dereferences a null tensor exactly for a new input
without data. -/
theorem storeInput_fault_iff (hhollow : NoHollow e.inputTensors) (w : World) (env : ExecutorEnv)
    (index : Nat) (inputTensor : NNTensor Address) (buffer : Option Bytes) (length : Nat) :
    e.storeInput w env index inputTensor buffer length = .error (.nullDeref .tensor) ↔
      e.inputTensors.lookup index = none ∧ inputTensor.dataLength = 0 := by
  cases hx : e.inputTensors.lookup index with
  | none =>
    have hcur : e.curBufferLength index = 0 := by
      rw [curBufferLength, hx]
    by_cases hzero : inputTensor.dataLength = 0
    · -- No buffer at all is large enough for no data.
      refine iff_of_true ?_ ⟨rfl, hzero⟩
      unfold storeInput
      dsimp only
      rw [if_pos (by omega)]
      unfold setInputTensorWithCurrentBuffer
      rw [hx]
      rfl
    · refine iff_of_false ?_ fun hboth => hzero hboth.2
      exact storeInput_allocates_finds hhollow w env buffer length (by omega)
  | some x =>
    obtain ⟨t, ht⟩ := Option.isSome_iff_exists.mp (hhollow index x hx)
    refine iff_of_false ?_ nofun
    by_cases hcur : inputTensor.dataLength ≤ e.curBufferLength index
    · unfold storeInput
      dsimp only
      rw [if_pos hcur]
      unfold setInputTensorWithCurrentBuffer
      rw [hx]
      dsimp only [Option.getD_some]
      rw [ht]
      dsimp only
      split <;> nofun
    · exact storeInput_allocates_finds hhollow w env buffer length hcur

/-- **`SetInput`** of an executor with a model and without hollow inputs. -/
theorem setInput_fault_iff (hhollow : NoHollow e.inputTensors) (hmodel : e.preparedModel.isSome)
    (w : World) (env : ExecutorEnv) (index : Nat) (nnTensor : OHNNTensor) (buffer : Option Bytes)
    (length : Nat) :
    e.setInput w env index nnTensor buffer length = .error (.nullDeref .tensor) ↔
      e.inputTensors.lookup index = none ∧ nnTensor.dataType = some .unknown ∧ length ≠ 0 ∧
        e.AcceptsInput w env index nnTensor := by
  obtain ⟨nnRet, hcheck⟩ := checkInputDimRange_ok hmodel env index nnTensor
  unfold setInput
  rw [hcheck]
  dsimp only
  by_cases hrange : nnRet ≠ .operationForbidden ∧ nnRet ≠ .success
  · rw [if_pos hrange]
    refine iff_of_false nofun fun hall => ?_
    rcases hall.2.2.2.inRange with hforbidden | hsuccess
    · rw [hcheck, Except.ok.injEq] at hforbidden
      exact hrange.1 hforbidden
    · rw [hcheck, Except.ok.injEq] at hsuccess
      exact hrange.2 hsuccess
  rw [if_neg hrange]
  have hinRange : e.checkInputDimRange env index nnTensor = .ok .operationForbidden ∨
      e.checkInputDimRange env index nnTensor = .ok .success := by
    rw [hcheck, Except.ok.injEq, Except.ok.injEq]
    by_contra hneither
    exact hrange (not_or.mp hneither)
  cases hcreated : env.createTensor with
  | false =>
    refine iff_of_false nofun fun hall => ?_
    have htrue := hall.2.2.2.created
    rw [hcreated] at htrue
    cases htrue
  | true =>
    cases hbuild : e.buildInputTensor w index nnTensor with
    | mk ret inputTensor =>
      by_cases hret : ret = .success
      · subst hret
        have haccepts : e.AcceptsInput w env index nnTensor := ⟨hinRange, hcreated, by rw [hbuild]⟩
        -- Only a type without a size makes an accepted tensor that takes no bytes.
        have hzero := buildInputTensor_dataLength hbuild
        show (if length = 0 ∨ length < inputTensor.dataLength then _
          else e.storeInput w env index inputTensor buffer length) = _ ↔ _
        by_cases hlength : length = 0 ∨ length < inputTensor.dataLength
        · rw [if_pos hlength]
          refine iff_of_false nofun ?_
          rintro ⟨-, hunknown, hne, -⟩
          have hzero := hzero.mpr hunknown
          omega
        · rw [if_neg hlength, storeInput_fault_iff hhollow, hzero]
          constructor
          · exact fun hboth => ⟨hboth.1, hboth.2, fun h0 => hlength (Or.inl h0), haccepts⟩
          · exact fun hall => ⟨hall.1, hall.2.1⟩
      · refine iff_of_false ?_ fun hall => hret ?_
        · cases ret with
          | success => exact absurd rfl hret
          | _ => nofun
        · have hbuilt := hall.2.2.2.built
          rw [hbuild] at hbuilt
          exact hbuilt

theorem setInputFromMemory_finds (hhollow : NoHollow e.inputTensors)
    (hmodel : e.preparedModel.isSome) (w : World) (env : ExecutorEnv) (index : Nat)
    (nnTensor : OHNNTensor) (memory : OHNNMemory) :
    e.setInputFromMemory w env index nnTensor memory ≠ .error (.nullDeref .tensor) := by
  obtain ⟨nnRet, hcheck⟩ := checkInputDimRange_ok hmodel env index nnTensor
  unfold setInputFromMemory
  rw [hcheck]
  dsimp only
  split
  · nofun
  split
  · nofun
  split
  · rename_i inputTensor _
    split
    · nofun
    · obtain ⟨result, hresult⟩ := setInputTensorWithNewBuffer_finds hhollow w index inputTensor
        (.user memory.data) memory.length false
      rw [hresult]
      nofun
  · nofun

end Inputs

/-! ## The setters of outputs -/

section Outputs

variable {e e' : NNExecutor} {w w' : World} {env : ExecutorEnv} {ret : ReturnCode}

theorem sameDimensions_self (dims : List Int32) : NNTensor.sameDimensions dims dims = true := by
  induction dims with
  | nil => rfl
  | cons dim dims ih =>
    unfold NNTensor.sameDimensions
    rw [ih, decide_eq_true (rfl : dim = dim)]
    simp

/-- **When the tensor of a new output is built.** The comparison with the description
it comes from never fails. -/
theorem buildNNTensorFromDesc_isSome_iff {desc : TensorDesc} {type : UInt32} :
    (buildNNTensorFromDesc env desc type).isSome ↔ env.createTensor ∧ desc.Buildable := by
  unfold buildNNTensorFromDesc
  cases hcreated : env.createTensor with
  | false => exact iff_of_false nofun nofun
  | true =>
    have hbuild := @NNTensor.buildFromTensorDesc_success_iff Address {} desc
    unfold TensorDesc.Buildable
    rw [← hbuild]
    cases ht : ({} : NNTensor Address).buildFromTensorDesc desc with
    | mk ret t =>
      by_cases hret : ret = .success
      · subst hret
        obtain ⟨hdataType, hdimensions⟩ := NNTensor.buildFromTensorDesc_success ht
        have hsame : compareAttribute desc type { t with format := desc.format } type = true := by
          unfold compareAttribute
          dsimp only
          rw [hdataType, hdimensions, sameDimensions_self]
          simp
        dsimp only
        rw [hsame]
        exact iff_of_true rfl ⟨rfl, rfl⟩
      · refine iff_of_false ?_ fun hboth => hret hboth.2
        cases ret with
        | success => exact absurd rfl hret
        | _ => nofun

theorem Filled.putOutput (h : e.Filled) {index : Nat} {x : ExeTensor} (hx : x.tensor.isSome)
    (hindex : index < e.outputTensorDescs.length) : (e.putOutput index x).Filled :=
  ⟨h.inputs, h.outputs.insert hx hindex⟩

theorem OutputChecked.index {index length : Nat} (h : e.OutputChecked w index length) :
    index < e.outputTensorDescs.length := by
  obtain ⟨ref, type, dataLength, hdesc, -⟩ := h
  exact (List.getElem?_eq_some_iff.mp hdesc).1

/-- The outcome of a call on a filled executor is as it should be. -/
def FilledAfter (outcome : Outcome) : Prop :=
  outcome ≠ .error (.nullDeref .tensor) ∧
    ∀ ret e' w', outcome = .ok (ret, e', w') → e'.Filled

theorem filledAfter_ok {result : ReturnCode × NNExecutor × World} (h : result.2.1.Filled) :
    FilledAfter (.ok result) := by
  refine ⟨nofun, fun ret e' w' heq => ?_⟩
  cases heq
  exact h

theorem filledAfter_error {fault : Fault} :
    FilledAfter (.error fault) ↔ fault ≠ .nullDeref .tensor := by
  constructor
  · rintro ⟨hfinds, -⟩ rfl
    exact hfinds rfl
  · intro hfault
    refine ⟨fun heq => ?_, fun ret e' w' heq => ?_⟩
    · cases heq
      exact hfault rfl
    · cases heq

theorem setOutputBuffer_filled {index : Nat} {x : ExeTensor} (hfilled : e.Filled)
    (hindex : index < e.outputTensorDescs.length) (hx : x.tensor.isSome) (w : World)
    (env : ExecutorEnv) (buffer : Option Nat) (length : Nat) :
    FilledAfter (e.setOutputBuffer w env index x buffer length) := by
  obtain ⟨t, ht⟩ := Option.isSome_iff_exists.mp hx
  unfold setOutputBuffer
  split
  · exact filledAfter_ok hfilled
  · rw [ht]
    exact filledAfter_ok (hfilled.putOutput rfl hindex)

theorem setOutputMemory_filled {index : Nat} {x : ExeTensor} (hfilled : e.Filled)
    (hindex : index < e.outputTensorDescs.length) (hx : x.tensor.isSome) (w : World)
    (memory : OHNNMemory) : FilledAfter (e.setOutputMemory w index x memory) := by
  obtain ⟨t, ht⟩ := Option.isSome_iff_exists.mp hx
  unfold setOutputMemory
  rw [ht]
  exact filledAfter_ok (hfilled.putOutput rfl hindex)

/-- A new output gets a tensor, or a hollow entry. -/
theorem filledAfter_new_iff {index length : Nat} {ref : Nat} {type : UInt32} {outcome : Outcome}
    (hx : e.outputTensors.lookup index = none) (hchecked : e.OutputChecked w index length)
    (hdesc : e.outputTensorDescs[index]? = some (ref, type))
    (hunbuilt : buildNNTensorFromDesc env (w.desc ref) type = none →
      outcome = .ok (.nullPtr, e.putOutput index {}, w))
    (hbuilt : ∀ t, buildNNTensorFromDesc env (w.desc ref) type = some t → FilledAfter outcome) :
    FilledAfter outcome ↔ e.FillsOutput w env index length := by
  have hiff := @buildNNTensorFromDesc_isSome_iff env (w.desc ref) type
  cases hbuild : buildNNTensorFromDesc env (w.desc ref) type with
  | none =>
    rw [hbuild] at hiff
    refine iff_of_false (fun hafter => ?_) fun hfills => ?_
    · exact not_filledBelow_hollow index (hafter.2 _ _ _ (hunbuilt hbuild)).outputs
    · obtain ⟨hcreated, hbuildable⟩ := hfills hx hchecked
      cases hiff.mpr ⟨hcreated, hbuildable ref type hdesc⟩
  | some t =>
    rw [hbuild] at hiff
    obtain ⟨hcreated, hbuildable⟩ := hiff.mp rfl
    refine iff_of_true (hbuilt t hbuild) fun _ _ => ⟨hcreated, fun ref' type' hdesc' => ?_⟩
    rw [hdesc] at hdesc'
    cases hdesc'
    exact hbuildable

/-- An output that is refused or has an entry needs no new tensor. -/
theorem fillsOutput_of_not {index length : Nat}
    (h : ¬ (e.outputTensors.lookup index = none ∧ e.OutputChecked w index length)) :
    e.FillsOutput w env index length :=
  fun hx hchecked => absurd ⟨hx, hchecked⟩ h

/-- **`SetOutput`** of a filled executor. -/
theorem setOutput_filled_iff (hfilled : e.Filled) (w : World) (env : ExecutorEnv) (index : Nat)
    (buffer : Option Nat) (length : Nat) :
    FilledAfter (e.setOutput w env index buffer length) ↔ e.FillsOutput w env index length := by
  rcases @checkedOutput_cases e w index length (e.setOutput w env index buffer length) _ rfl with
    ⟨hchecked, ret, -, hcall⟩ | ⟨hchecked, ref, type, hdesc, hcall⟩
  · rw [hcall]
    exact iff_of_true (filledAfter_ok hfilled) (fillsOutput_of_not fun hboth => hchecked hboth.2)
  · have hindex := hchecked.index
    rw [hcall]
    cases hx : e.outputTensors.lookup index with
    | some x =>
      have hsome := (hfilled.outputs index x hx).1
      obtain ⟨t, ht⟩ := Option.isSome_iff_exists.mp hsome
      refine iff_of_true ?_ (fillsOutput_of_not fun hnone => ?_)
      · dsimp only
        split
        · rw [ht]
          dsimp only
          split
          · exact filledAfter_ok (hfilled.putOutput rfl hindex)
          · exact setOutputBuffer_filled hfilled hindex hsome _ _ _ _
        · exact setOutputBuffer_filled hfilled hindex hsome _ _ _ _
      · rw [hx] at hnone
        cases hnone.1
    | none =>
      refine filledAfter_new_iff hx hchecked hdesc (fun hbuild => ?_) fun t hbuild => ?_
      · dsimp only
        rw [hbuild]
      · dsimp only
        rw [hbuild]
        exact setOutputBuffer_filled (hfilled.putOutput rfl hindex) hindex rfl _ _ _ _

/-- **`SetOutputFromMemory`** of a filled executor. -/
theorem setOutputFromMemory_filled_iff (hfilled : e.Filled) (w : World) (env : ExecutorEnv)
    (index : Nat) (memory : OHNNMemory) :
    FilledAfter (e.setOutputFromMemory w env index memory) ↔
      e.FillsOutput w env index memory.length := by
  rcases @checkedOutput_cases e w index memory.length (e.setOutputFromMemory w env index memory) _
    rfl with ⟨hchecked, ret, -, hcall⟩ | ⟨hchecked, ref, type, hdesc, hcall⟩
  · rw [hcall]
    exact iff_of_true (filledAfter_ok hfilled) (fillsOutput_of_not fun hboth => hchecked hboth.2)
  · have hindex := hchecked.index
    rw [hcall]
    cases hx : e.outputTensors.lookup index with
    | some x =>
      have hsome := (hfilled.outputs index x hx).1
      obtain ⟨t, ht⟩ := Option.isSome_iff_exists.mp hsome
      refine iff_of_true ?_ (fillsOutput_of_not fun hnone => ?_)
      · dsimp only
        split
        · rw [ht]
          exact setOutputMemory_filled hfilled hindex hsome _ _
        · exact setOutputMemory_filled hfilled hindex hsome _ _
      · rw [hx] at hnone
        cases hnone.1
    | none =>
      refine filledAfter_new_iff hx hchecked hdesc (fun hbuild => ?_) fun t hbuild => ?_
      · dsimp only
        rw [hbuild]
      · dsimp only
        rw [hbuild]
        exact setOutputMemory_filled (hfilled.putOutput rfl hindex) hindex rfl _ _

end Outputs

/-! ## The runs -/

section Runs

variable {e e' : NNExecutor} {w w' : World} {env : ExecutorEnv} {ret : ReturnCode}

/-- The dimensions of outputs do not take their tensors. -/
theorem SameBuffers.filled (h : SameBuffers e e') (hfilled : e.Filled) : e'.Filled := by
  obtain ⟨hrest, hview⟩ := h
  rw [hrest]
  refine ⟨hfilled.inputs, fun index x hx => ?_⟩
  have hsame := hview index
  dsimp only at hx
  rw [hx] at hsame
  cases hy : e.outputTensors.lookup index with
  | none =>
    rw [hy] at hsame
    cases hsame
  | some y =>
    obtain ⟨hsome, hindex⟩ := hfilled.outputs index y hy
    rw [hy, Option.map_some, Option.map_some, Option.some.injEq] at hsame
    have htensor : (x.tensor.map fun t => (t.buffer, t.bufferLength))
        = y.tensor.map fun t => (t.buffer, t.bufferLength) := congrArg Prod.fst hsame
    refine ⟨?_, hindex⟩
    rw [← Option.isSome_map (f := fun t : NNTensor Address => (t.buffer, t.bufferLength)), htensor,
      Option.isSome_map]
    exact hsome

/-- **`Run`** of a filled executor finds every tensor, and leaves one in every entry. -/
theorem run_filled (hfilled : e.Filled) (w : World) (env : ExecutorEnv) :
    FilledAfter (e.run w env) := by
  constructor
  · unfold run
    by_cases hin : e.inputTensorDescs.length ≠ e.inputTensors.entries.length
    · rw [if_pos hin]
      nofun
    rw [if_neg hin]
    by_cases hout : e.outputTensorDescs.length ≠ e.outputTensors.entries.length
    · rw [if_pos hout]
      nofun
    rw [if_neg hout]
    obtain ⟨inputs, hinputs⟩ := hfilled.inputs.tensorsOf (not_not.mp hin)
    obtain ⟨outputs, houtputs⟩ := hfilled.outputs.tensorsOf (not_not.mp hout)
    rw [hinputs, houtputs]
    dsimp only
    unfold runTensors
    cases e.preparedModel with
    | none => nofun
    | some preparedModel =>
      dsimp only
      split
      · rename_i hrun
        split at hrun
        · cases hrun
        split at hrun
        · cases hrun
        · cases hrun
      · nofun
      · nofun
  · intro ret e' w' h
    cases run_ran h with
    | refused => exact hfilled
    | failed => exact hfilled
    | dims hinputs houtputs hdims =>
      exact (setOutputDims_sameBuffers (aligned_of_tensorsOf houtputs) hdims).1.filled hfilled
    | copied hdescs hinputs houtputs hcode hlength hdims =>
      exact (setOutputDims_sameBuffers (aligned_of_tensorsOf houtputs) hdims).1.filled hfilled

/-- **`RunSync`** has nothing to do with the entries while the model is there. -/
theorem runSync_filled (hfilled : e.Filled) (hmodel : e.preparedModel.isSome) (w : World)
    (env : ExecutorEnv) (reloadEnv : ReloadEnv) (inputTensors outputTensors : List (Option Nat)) :
    FilledAfter (e.runSync w env reloadEnv inputTensors outputTensors) := by
  unfold runSync
  split
  · exact filledAfter_error.mpr nofun
  dsimp only
  have hremoved : ({ e with autoUnloadHandler := some 0 } : NNExecutor).Filled :=
    ⟨hfilled.inputs, hfilled.outputs⟩
  split
  · exact filledAfter_ok hremoved
  split
  · exact filledAfter_ok hremoved
  have hloaded : ({ e with autoUnloadHandler := some 0 } : NNExecutor).preparedModel.isSome :=
    hmodel
  generalize ({ e with autoUnloadHandler := some 0 } : NNExecutor) = e₁ at hremoved hloaded ⊢
  constructor
  · have hother : ¬ Fault.outOfBounds = .nullDeref .tensor := nofun
    have havoids := @runSyncTensors_avoids e₁ (fun fault => fault = Fault.nullDeref .tensor) hother
      hloaded w env inputTensors outputTensors
    exact fun heq => havoids _ heq rfl
  · intro ret e' w' h
    rw [runSyncTensors_eq] at h
    cases tensorsWith_ran h with
    | refused => exact hremoved
    | failed => exact hremoved
    | reported =>
      unfold posted
      split
      · exact ⟨hremoved.inputs, hremoved.outputs⟩
      · exact hremoved

end Runs

/-! ## Runs of calls -/

theorem whole_iff {s : NNExecutor × World} : Whole s ↔ s.1.Filled :=
  ⟨Whole.filled, fun hfilled => hfilled.whole s.2⟩

/-- What a step does, in terms of the outcome of its call. -/
theorem tensorStep_filled_iff {s : NNExecutor × World} {call : ExecutorEnv × TensorCall} :
    (FindsTensors s call ∧ ∀ s', tensorStep s call = .ok s' → Whole s') ↔
      FilledAfter (call.2.call.perform s.1 s.2 call.1) := by
  unfold FindsTensors tensorStep step
  cases call.2.call.perform s.1 s.2 call.1 with
  | error fault =>
    rw [filledAfter_error]
    constructor
    · rintro ⟨hfinds, -⟩ rfl
      exact hfinds rfl
    · intro hfault
      refine ⟨fun heq => ?_, fun s' heq => ?_⟩
      · cases heq
        exact hfault rfl
      · cases heq
  | ok result =>
    constructor
    · rintro ⟨-, hwhole⟩
      exact filledAfter_ok (hwhole result.2 rfl).filled
    · rintro ⟨-, hfilled⟩
      refine ⟨nofun, fun s' heq => whole_iff.mpr ?_⟩
      cases heq
      exact hfilled result.1 result.2.1 result.2.2 rfl

/-- **One call** is as it should be exactly if it meets its condition. -/
theorem filledAfter_iff {s : NNExecutor × World} {call : ExecutorEnv × TensorCall}
    (hmodel : s.1.preparedModel.isSome) (hfilled : s.1.Filled) :
    FilledAfter (call.2.call.perform s.1 s.2 call.1) ↔ call.2.Fills s call.1 := by
  obtain ⟨e, w⟩ := s
  obtain ⟨env, call⟩ := call
  cases call with
  | setInput index nnTensor buffer length =>
    have hfault := setInput_fault_iff hfilled.inputs.noHollow hmodel w env index nnTensor buffer length
    constructor
    · exact fun hafter hcond => hafter.1 (hfault.mpr hcond)
    · exact fun hfills => ⟨fun heq => hfills (hfault.mp heq),
        fun ret e' w' h => (setInput_inputSet h).filled hfilled⟩
  | setInputFromMemory index nnTensor memory =>
    refine iff_of_true ⟨?_, fun ret e' w' h => ?_⟩ trivial
    · exact setInputFromMemory_finds hfilled.inputs.noHollow hmodel w env index nnTensor memory
    · exact (setInputFromMemory_inputMemorySet h).filled hfilled
  | setOutput index buffer length => exact setOutput_filled_iff hfilled w env index buffer length
  | setOutputFromMemory index memory =>
    exact setOutputFromMemory_filled_iff hfilled w env index memory
  | run => exact iff_of_true (run_filled hfilled w env) trivial
  | runSync reloadEnv inputTensors outputTensors =>
    exact iff_of_true (runSync_filled hfilled hmodel w env reloadEnv inputTensors outputTensors)
      trivial

/-- None of the calls takes the model away. -/
theorem tensorStep_model {s s' : NNExecutor × World} {call : ExecutorEnv × TensorCall}
    (hmodel : s.1.preparedModel.isSome) (h : tensorStep s call = .ok s') :
    s'.1.preparedModel.isSome := by
  obtain ⟨e, w⟩ := s
  obtain ⟨e', w'⟩ := s'
  obtain ⟨env, call⟩ := call
  obtain ⟨ret, hperform⟩ := step_eq_ok h
  cases call with
  | setInput index nnTensor buffer length =>
    rw [(setInput_inputSet hperform).rest.1]
    exact hmodel
  | setInputFromMemory index nnTensor memory =>
    rw [(setInputFromMemory_inputMemorySet hperform).rest.1]
    exact hmodel
  | setOutput index buffer length =>
    rw [(setOutput_outputSet hperform).rest.1]
    exact hmodel
  | setOutputFromMemory index memory =>
    rw [(setOutputFromMemory_outputMemorySet hperform).rest.1]
    exact hmodel
  | run =>
    cases run_ran hperform with
    | refused => exact hmodel
    | failed => exact hmodel
    | dims hinputs houtputs hdims =>
      rw [(setOutputDims_sameBuffers (aligned_of_tensorsOf houtputs) hdims).1.rest]
      exact hmodel
    | copied hdescs hinputs houtputs hcode hlength hdims =>
      rw [(setOutputDims_sameBuffers (aligned_of_tensorsOf houtputs) hdims).1.rest]
      exact hmodel
  | runSync reloadEnv inputTensors outputTensors =>
    have hperform : e.runSync w env reloadEnv inputTensors outputTensors = .ok (ret, e', w') :=
      hperform
    unfold runSync at hperform
    split at hperform
    · cases hperform
    dsimp only at hperform
    split at hperform
    · cases hperform
      exact hmodel
    split at hperform
    · cases hperform
      exact hmodel
    show e'.preparedModel.isSome
    rw [runSyncTensors_preparedModel hperform]
    exact hmodel

theorem filled_create (c : NNCompiler Nat) (preparedModel : PreparedModel) :
    (NNExecutor.create c preparedModel).Filled :=
  ⟨filledBelow_empty, filledBelow_empty⟩

/-- **No hollow entries**: from the constructor on, every state is whole and no call
dereferences a null tensor exactly if every call meets its condition. -/
theorem filled_iff (c : NNCompiler Nat) (preparedModel : PreparedModel) (w : World)
    (calls : List (ExecutorEnv × TensorCall)) :
    (∀ before, before <+: calls → ∀ s,
      Run.exec tensorStep (NNExecutor.create c preparedModel, w) before = .ok s →
        Whole s ∧ ∀ call, before ++ [call] <+: calls → FindsTensors s call) ↔
      Run.Meets tensorStep (fun s call => call.2.Fills s call.1)
        (NNExecutor.create c preparedModel, w) calls :=
  Run.always_iff_meets (I := fun s => s.1.preparedModel.isSome)
    (fun _ _ _ hmodel hstep => tensorStep_model hmodel hstep)
    (fun _ _ hmodel hwhole => tensorStep_filled_iff.trans (filledAfter_iff hmodel hwhole.filled))
    rfl (whole_iff.mpr (filled_create c preparedModel))

/-- The device reports an output without elements, and the output is set. -/
def refusedShape : List (ExecutorEnv × TensorCall) :=
  [(reports [0], .runSync noReload [some 0] [some 1]), ({}, .setOutput 0 none 8)]

/-- A model whose input has no type. -/
def untypedCompiler : NNCompiler TensorDesc :=
  { smallCompiler [2] with
    inputTensorDescs := [((({} : TensorDesc).setShape [2]).2, TensorType.tensor.code)] }

/-- Its input is set. -/
def untypedInput : ExecutorEnv × TensorCall :=
  ({}, .setInput 0 { dataType := some .unknown, dimensions := .array [2] } (some [1]) 1)

/-- **Two runs with hollow entries.** After the first the entry of the output has no
tensor, and the destructor or the next setter dereferences it; the second does so at
once. -/
theorem hollow_entries :
    (∃ s, Run.exec tensorStep (smallExecutor, twoTensors) refusedShape = .ok s ∧
      s.1.outputTensors.lookup 0 = some {} ∧ ¬ Whole s ∧
      (s.1.destroy s.2).1 = some (.nullDeref .tensor) ∧
      ¬ FindsTensors s ({}, .setOutput 0 none 8)) ∧
    ¬ FindsTensors (NNExecutor.create (untypedCompiler.share {}).1 ⟨0, (.success, []), .success⟩,
      (untypedCompiler.share {}).2) untypedInput := by
  refine ⟨⟨_, rfl, rfl, fun hwhole => ?_, rfl, fun hfinds => hfinds rfl⟩, fun hfinds => hfinds rfl⟩
  have hnone := hwhole.destroys
  cases hnone

end NNExecutor

end NNRt
