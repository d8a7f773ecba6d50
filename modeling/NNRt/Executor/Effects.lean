import NNRt.Executor.Reload

/-!
# What a run does

- `InputSet`, `InputMemorySet`: how `SetInput` and `SetInputFromMemory` end.
- `OutputSet`, `OutputMemorySet`: how `SetOutput` and `SetOutputFromMemory` end.
- `Ran`, `run_ran`: how `Run` ends, and what has happened until then.
- `tensorsOf_getElem?`: the tensors it runs are those of the entries.
- `setOutputDims_sameBuffers`: the reported dimensions leave buffers and lengths
  as they are.
- `Quiet`, `perform_quiet`: the calls that set no tensor and do not run leave the
  entries, the buffers and their content alone.
-/

namespace NNRt

/-- The part of an entry that does not depend on the dimensions of its tensor. -/
def ExeTensor.view (x : ExeTensor) : Option (Option Address × Nat) × Option Nat × Nat × Bool :=
  (x.tensor.map fun t => (t.buffer, t.bufferLength), x.userBuffer, x.userBufferLength,
    x.isInnerMem)

namespace NNExecutor

/-! ## `SetInput` and `SetInputFromMemory` -/

/-- The entry `SetInput` stores with a new buffer, and `SetInputFromMemory`. -/
def inputEntry (inputTensor : NNTensor Address) (buffer : Address) (length : Nat)
    (isInnerMem : Bool) : ExeTensor where
  tensor := some (inputTensor.setBuffer (some buffer) length)
  isInnerMem := isInnerMem

/-- The world once the buffer an input had is released. -/
def releaseInput (e : NNExecutor) (w : World) (index : Nat) : World :=
  match e.inputTensors.lookup index with
  | none => w
  | some x => if x.isInnerMem then w.releaseBuffer (x.tensor.bind NNTensor.buffer) else w

theorem setInputTensorWithNewBuffer_ok {e e' : NNExecutor} {w w' : World} {index : Nat}
    {inputTensor : NNTensor Address} {inputBuffer : Address} {length : Nat} {isInnerMem : Bool}
    {ret : ReturnCode}
    (h : e.setInputTensorWithNewBuffer w index inputTensor inputBuffer length isInnerMem
      = .ok (ret, e', w')) :
    ret = .success ∧
      e' = e.putInput index (inputEntry inputTensor inputBuffer length isInnerMem) ∧
      w' = e.releaseInput w index := by
  unfold setInputTensorWithNewBuffer at h
  dsimp only at h
  unfold releaseInput
  cases hx : e.inputTensors.lookup index with
  | none =>
    rw [hx] at h
    cases h
    exact ⟨rfl, rfl, rfl⟩
  | some x =>
    rw [hx] at h
    dsimp only at h ⊢
    cases ht : x.tensor with
    | none =>
      rw [ht] at h
      cases h
    | some t =>
      rw [ht] at h
      cases h
      exact ⟨rfl, rfl, rfl⟩

/-- The input exists, its tensor is as described, and the length is enough for it. -/
def InputChecked (e : NNExecutor) (w : World) (index : Nat) (nnTensor : OHNNTensor)
    (length : Nat) (inputTensor : NNTensor Address) : Prop :=
  e.buildInputTensor w index nnTensor = (.success, inputTensor) ∧ length ≠ 0 ∧
    inputTensor.dataLength ≤ length

/-- How `SetInput` ends. -/
inductive InputSet (e : NNExecutor) (w : World) (index : Nat) (nnTensor : OHNNTensor)
    (buffer : Option Bytes) (length : Nat) : ReturnCode → NNExecutor → World → Prop
  /-- A check or the allocation fails. -/
  | refused {ret : ReturnCode} (hret : ret ≠ .success) :
    InputSet e w index nnTensor buffer length ret e w
  /-- Copying to the current buffer fails. -/
  | uncopied {x : ExeTensor} {t inputTensor : NNTensor Address} {w' : World}
    (hx : e.inputTensors.lookup index = some x) (ht : x.tensor = some t)
    (hchecked : e.InputChecked w index nnTensor length inputTensor)
    (hcopy : w.memcpy t.buffer inputTensor.dataLength buffer = (false, w')) :
    InputSet e w index nnTensor buffer length .memoryError e w'
  /-- Copying to a new buffer fails. -/
  | discarded {inputTensor : NNTensor Address} {w₁ : World}
    (hchecked : e.InputChecked w index nnTensor length inputTensor)
    (hcopy : w.allocateBuffer.memcpy (some (.inner w.nextBuffer)) inputTensor.dataLength buffer
      = (false, w₁)) :
    InputSet e w index nnTensor buffer length .memoryError e
      (w₁.releaseBuffer (some (.inner w.nextBuffer)))
  /-- The current buffer is large enough. -/
  | reused {x : ExeTensor} {t inputTensor : NNTensor Address} {w' : World}
    (hx : e.inputTensors.lookup index = some x) (ht : x.tensor = some t)
    (hchecked : e.InputChecked w index nnTensor length inputTensor)
    (hlength : inputTensor.dataLength ≤ e.curBufferLength index)
    (hcopy : w.memcpy t.buffer inputTensor.dataLength buffer = (true, w')) :
    InputSet e w index nnTensor buffer length .success
      (e.putInput index
        { x with tensor := some (inputTensor.setBuffer t.buffer (e.curBufferLength index)) }) w'
  /-- A new buffer takes the place of the current one. -/
  | stored {inputTensor : NNTensor Address} {w₁ : World}
    (hchecked : e.InputChecked w index nnTensor length inputTensor)
    (hcopy : w.allocateBuffer.memcpy (some (.inner w.nextBuffer)) inputTensor.dataLength buffer
      = (true, w₁)) :
    InputSet e w index nnTensor buffer length .success
      (e.putInput index (inputEntry inputTensor (.inner w.nextBuffer) length true))
      (e.releaseInput w₁ index)

/-- **`SetInput` ends in one of these ways.** -/
theorem setInput_inputSet {e e' : NNExecutor} {w w' : World} {env : ExecutorEnv} {index : Nat}
    {nnTensor : OHNNTensor} {buffer : Option Bytes} {length : Nat} {ret : ReturnCode}
    (h : e.setInput w env index nnTensor buffer length = .ok (ret, e', w')) :
    InputSet e w index nnTensor buffer length ret e' w' := by
  unfold setInput at h
  split at h
  · cases h
  split at h
  · rename_i hret
    cases h
    exact .refused hret.2
  split at h
  · cases h
    exact .refused nofun
  split at h
  · rename_i inputTensor hbuild
    split at h
    · cases h
      exact .refused nofun
    · rename_i hlength
      have hchecked : e.InputChecked w index nnTensor length inputTensor :=
        ⟨hbuild, by omega, by omega⟩
      unfold storeInput at h
      dsimp only at h
      split at h
      · -- The data fits the buffer of the entry, which is written to again.
        rename_i hcur
        unfold setInputTensorWithCurrentBuffer at h
        dsimp only at h
        cases hx : e.inputTensors.lookup index with
        | none =>
          rw [hx] at h
          cases h
        | some x =>
          rw [hx] at h
          dsimp only [Option.getD_some] at h
          split at h
          · cases h
          · rename_i t ht
            split at h
            · rename_i hcopy
              cases h
              exact .uncopied hx ht hchecked hcopy
            · rename_i hcopy
              cases h
              exact .reused hx ht hchecked hcur hcopy
      split at h
      · cases h
        exact .refused nofun
      split at h
      · rename_i hcopy
        cases h
        exact .discarded hchecked hcopy
      · rename_i hcopy
        obtain ⟨rfl, rfl, rfl⟩ := setInputTensorWithNewBuffer_ok h
        exact .stored hchecked hcopy
  · rename_i hret _
    cases h
    exact .refused hret

/-- How `SetInputFromMemory` ends. -/
inductive InputMemorySet (e : NNExecutor) (w : World) (index : Nat) (nnTensor : OHNNTensor)
    (memory : OHNNMemory) : ReturnCode → NNExecutor → World → Prop
  /-- A check fails. -/
  | refused {ret : ReturnCode} (hret : ret ≠ .success) :
    InputMemorySet e w index nnTensor memory ret e w
  /-- The input takes the memory. -/
  | stored {inputTensor : NNTensor Address}
    (hchecked : e.InputChecked w index nnTensor memory.length inputTensor) :
    InputMemorySet e w index nnTensor memory .success
      (e.putInput index (inputEntry inputTensor (.user memory.data) memory.length false))
      (e.releaseInput w index)

/-- **`SetInputFromMemory` ends in one of these ways.** -/
theorem setInputFromMemory_inputMemorySet {e e' : NNExecutor} {w w' : World} {env : ExecutorEnv}
    {index : Nat} {nnTensor : OHNNTensor} {memory : OHNNMemory} {ret : ReturnCode}
    (h : e.setInputFromMemory w env index nnTensor memory = .ok (ret, e', w')) :
    InputMemorySet e w index nnTensor memory ret e' w' := by
  unfold setInputFromMemory at h
  split at h
  · cases h
  split at h
  · rename_i hret
    cases h
    exact .refused hret.2
  split at h
  · cases h
    exact .refused nofun
  split at h
  · rename_i inputTensor hbuild
    split at h
    · cases h
      exact .refused nofun
    · rename_i hlength
      obtain ⟨rfl, rfl, rfl⟩ := setInputTensorWithNewBuffer_ok h
      exact .stored ⟨hbuild, by omega, by omega⟩
  · rename_i hret _
    cases h
    exact .refused hret

/-- Setting an input leaves the outputs alone. -/
theorem InputSet.outputTensors {e e' : NNExecutor} {w w' : World} {index : Nat}
    {nnTensor : OHNNTensor} {buffer : Option Bytes} {length : Nat} {ret : ReturnCode}
    (h : InputSet e w index nnTensor buffer length ret e' w') :
    e'.outputTensors = e.outputTensors := by
  cases h with
  | refused => rfl
  | uncopied => rfl
  | discarded => rfl
  | reused => rfl
  | stored => rfl

theorem InputMemorySet.outputTensors {e e' : NNExecutor} {w w' : World} {index : Nat}
    {nnTensor : OHNNTensor} {memory : OHNNMemory} {ret : ReturnCode}
    (h : InputMemorySet e w index nnTensor memory ret e' w') :
    e'.outputTensors = e.outputTensors := by
  cases h with
  | refused => rfl
  | stored => rfl

/-! ## `SetOutput` and `SetOutputFromMemory` -/

/-- The output exists, and the length is enough for what its description says. -/
def OutputChecked (e : NNExecutor) (w : World) (index length : Nat) : Prop :=
  ∃ ref type dataLength, e.outputTensorDescs[index]? = some (ref, type) ∧
    (w.desc ref).getByteSize = (.success, dataLength) ∧ length ≠ 0 ∧ dataLength.toNat ≤ length

theorem outputChecked_iff {e : NNExecutor} {w : World} {index length ref : Nat} {type : UInt32}
    (hdesc : e.outputTensorDescs[index]? = some (ref, type)) :
    e.OutputChecked w index length ↔ ∃ dataLength,
      (w.desc ref).getByteSize = (.success, dataLength) ∧ length ≠ 0 ∧
        dataLength.toNat ≤ length := by
  constructor
  · rintro ⟨ref', type', dataLength, hdesc', hsize⟩
    rw [hdesc] at hdesc'
    cases hdesc'
    exact ⟨dataLength, hsize⟩
  · rintro ⟨dataLength, hsize⟩
    exact ⟨ref, type, dataLength, hdesc, hsize⟩

/-- The checks that both ways to set an output begin with, in front of the rest of the call:
an output that is not as described is refused, and the call for another one goes on. -/
theorem checkedOutput_cases {e : NNExecutor} {w : World} {index length : Nat} {outcome : Outcome}
    {rest : Nat → UInt32 → Outcome}
    (hcall : outcome = match e.outputTensorDescs[index]? with
      | none => .ok (.invalidParameter, e, w)
      | some (ref, type) =>
        match (w.desc ref).getByteSize with
        | (.success, dataLength) =>
          if length = 0 ∨ length < dataLength.toNat then .ok (.invalidParameter, e, w)
          else rest ref type
        | (ret, _) => .ok (ret, e, w)) :
    (¬ e.OutputChecked w index length ∧ ∃ ret, ret ≠ .success ∧ outcome = .ok (ret, e, w)) ∨
      e.OutputChecked w index length ∧ ∃ ref type,
        e.outputTensorDescs[index]? = some (ref, type) ∧ outcome = rest ref type := by
  cases hdesc : e.outputTensorDescs[index]? with
  | none =>
    rw [hdesc] at hcall
    refine .inl ⟨?_, .invalidParameter, nofun, hcall⟩
    rintro ⟨ref, type, dataLength, hdesc', -⟩
    rw [hdesc] at hdesc'
    cases hdesc'
  | some desc =>
    obtain ⟨ref, type⟩ := desc
    rw [hdesc] at hcall
    dsimp only at hcall
    rw [outputChecked_iff hdesc]
    split at hcall
    · rename_i dataLength hsize
      split at hcall
      · rename_i hlength
        refine .inl ⟨?_, .invalidParameter, nofun, hcall⟩
        rintro ⟨dataLength', hsize', hne, hle⟩
        rw [hsize] at hsize'
        cases hsize'
        omega
      · exact .inr ⟨⟨dataLength, hsize, by omega, by omega⟩, ref, type, rfl, hcall⟩
    · rename_i ret size hret hsize
      refine .inl ⟨?_, ret, hret, hcall⟩
      rintro ⟨dataLength', hsize', -⟩
      rw [hsize] at hsize'
      cases hsize'
      exact hret rfl

/-- How `SetOutput` ends. -/
inductive OutputSet (e : NNExecutor) (w : World) (env : ExecutorEnv) (index : Nat)
    (buffer : Option Nat) (length : Nat) : ReturnCode → NNExecutor → World → Prop
  /-- A check fails. -/
  | refused {ret : ReturnCode} (hchecked : ¬ e.OutputChecked w index length)
    (hret : ret ≠ .success) :
    OutputSet e w env index buffer length ret e w
  /-- The device buffer is large enough. -/
  | reused {x : ExeTensor} {t : NNTensor Address}
    (hchecked : e.OutputChecked w index length)
    (hx : e.outputTensors.lookup index = some x) (hinner : x.isInnerMem = true)
    (ht : x.tensor = some t) (hlength : length ≤ t.bufferLength) :
    OutputSet e w env index buffer length .success
      (e.putOutput index { x with userBuffer := buffer, userBufferLength := length }) w
  /-- The device buffer is too small and is released. -/
  | grown {x : ExeTensor} {t : NNTensor Address} {ret : ReturnCode} {e' : NNExecutor} {w' : World}
    (hchecked : e.OutputChecked w index length)
    (hx : e.outputTensors.lookup index = some x) (hinner : x.isInnerMem = true)
    (ht : x.tensor = some t) (hlength : t.bufferLength < length)
    (h : e.setOutputBuffer (w.releaseBuffer t.buffer) env index x buffer length
      = .ok (ret, e', w')) :
    OutputSet e w env index buffer length ret e' w'
  /-- The output is in memory of the user, or has no buffer. -/
  | replaced {x : ExeTensor} {ret : ReturnCode} {e' : NNExecutor} {w' : World}
    (hchecked : e.OutputChecked w index length)
    (hx : e.outputTensors.lookup index = some x) (hinner : x.isInnerMem = false)
    (h : e.setOutputBuffer w env index x buffer length = .ok (ret, e', w')) :
    OutputSet e w env index buffer length ret e' w'
  /-- The output is new, and its tensor cannot be built. -/
  | unbuilt (hchecked : e.OutputChecked w index length)
    (hx : e.outputTensors.lookup index = none) :
    OutputSet e w env index buffer length .nullPtr (e.putOutput index {}) w
  /-- The output is new. -/
  | built {t : NNTensor Address} {ret : ReturnCode} {e' : NNExecutor} {w' : World}
    {ref : Nat} {type : UInt32}
    (hchecked : e.OutputChecked w index length)
    (hx : e.outputTensors.lookup index = none)
    (hdesc : e.outputTensorDescs[index]? = some (ref, type))
    (ht : buildNNTensorFromDesc env (w.desc ref) type = some t)
    (h : (e.putOutput index { tensor := some t }).setOutputBuffer w env index
      { tensor := some t } buffer length = .ok (ret, e', w')) :
    OutputSet e w env index buffer length ret e' w'

/-- **`SetOutput` ends in one of these ways.** -/
theorem setOutput_outputSet {e e' : NNExecutor} {w w' : World} {env : ExecutorEnv} {index : Nat}
    {buffer : Option Nat} {length : Nat} {ret : ReturnCode}
    (h : e.setOutput w env index buffer length = .ok (ret, e', w')) :
    OutputSet e w env index buffer length ret e' w' := by
  rcases @checkedOutput_cases e w index length (e.setOutput w env index buffer length) _ rfl with
    ⟨hchecked, ret', hret, hcall⟩ | ⟨hchecked, ref, type, hdesc, hcall⟩
  · rw [hcall] at h
    cases h
    exact .refused hchecked hret
  · rw [hcall] at h
    dsimp only at h
    split at h
    · rename_i x hx
      split at h
      · -- The buffer of the device is kept if it is long enough.
        rename_i hinner
        split at h
        · cases h
        · rename_i t ht
          split at h
          · rename_i hle
            cases h
            exact .reused hchecked hx hinner ht hle
          · rename_i hlt
            exact .grown hchecked hx hinner ht (by omega) h
      · rename_i hinner
        exact .replaced hchecked hx (Bool.eq_false_iff.mpr hinner) h
    · rename_i hx
      split at h
      · cases h
        exact .unbuilt hchecked hx
      · rename_i t ht
        exact .built hchecked hx hdesc ht h

/-- The entry `SetOutputFromMemory` stores. -/
def memoryEntry (t : NNTensor Address) (memory : OHNNMemory) : ExeTensor where
  tensor := some (t.setBuffer (some (.user memory.data)) memory.length)

/-- How `SetOutputFromMemory` ends. -/
inductive OutputMemorySet (e : NNExecutor) (w : World) (env : ExecutorEnv) (index : Nat)
    (memory : OHNNMemory) : ReturnCode → NNExecutor → World → Prop
  /-- A check fails. -/
  | refused {ret : ReturnCode} (hchecked : ¬ e.OutputChecked w index memory.length)
    (hret : ret ≠ .success) :
    OutputMemorySet e w env index memory ret e w
  /-- The output takes the memory; a device buffer is released. -/
  | replaced {x : ExeTensor} {t : NNTensor Address}
    (hchecked : e.OutputChecked w index memory.length)
    (hx : e.outputTensors.lookup index = some x) (ht : x.tensor = some t) :
    OutputMemorySet e w env index memory .success (e.putOutput index (memoryEntry t memory))
      (if x.isInnerMem then w.releaseBuffer t.buffer else w)
  /-- The output is new, and its tensor cannot be built. -/
  | unbuilt (hchecked : e.OutputChecked w index memory.length)
    (hx : e.outputTensors.lookup index = none) :
    OutputMemorySet e w env index memory .nullPtr (e.putOutput index {}) w
  /-- The output is new. -/
  | built {t : NNTensor Address} {ref : Nat} {type : UInt32}
    (hchecked : e.OutputChecked w index memory.length)
    (hx : e.outputTensors.lookup index = none)
    (hdesc : e.outputTensorDescs[index]? = some (ref, type))
    (ht : buildNNTensorFromDesc env (w.desc ref) type = some t) :
    OutputMemorySet e w env index memory .success
      ((e.putOutput index { tensor := some t }).putOutput index (memoryEntry t memory)) w

/-- **`SetOutputFromMemory` ends in one of these ways.** -/
theorem setOutputFromMemory_outputMemorySet {e e' : NNExecutor} {w w' : World} {env : ExecutorEnv}
    {index : Nat} {memory : OHNNMemory} {ret : ReturnCode}
    (h : e.setOutputFromMemory w env index memory = .ok (ret, e', w')) :
    OutputMemorySet e w env index memory ret e' w' := by
  rcases @checkedOutput_cases e w index memory.length (e.setOutputFromMemory w env index memory) _
    rfl with ⟨hchecked, ret', hret, hcall⟩ | ⟨hchecked, ref, type, hdesc, hcall⟩
  · rw [hcall] at h
    cases h
    exact .refused hchecked hret
  · rw [hcall] at h
    dsimp only at h
    unfold setOutputMemory at h
    split at h
    · rename_i x hx
      split at h
      · rename_i hinner
        split at h
        · cases h
        · rename_i t ht
          have hset := @OutputMemorySet.replaced e w env _ _ _ _ hchecked hx ht
          rw [if_pos hinner] at hset
          cases h
          exact hset
      · rename_i hinner
        split at h
        · cases h
        · rename_i t ht
          have hset := @OutputMemorySet.replaced e w env _ _ _ _ hchecked hx ht
          rw [if_neg hinner] at hset
          cases h
          exact hset
    · rename_i hx
      split at h
      · cases h
        exact .unbuilt hchecked hx
      · rename_i t ht
        cases h
        exact .built hchecked hx hdesc ht

/-! ## What the setters leave alone -/

/-- Only buffers and what they hold have changed. -/
def SameBut (w w' : World) : Prop :=
  w' = { w with log := w'.log, memory := w'.memory }

theorem SameBut.trans {w₁ w₂ w₃ : World} (h : SameBut w₁ w₂) (h' : SameBut w₂ w₃) :
    SameBut w₁ w₃ := by
  unfold SameBut at h h' ⊢
  rw [h', h]

theorem sameBut_write (w : World) (address : Option Address) (data : Bytes) :
    SameBut w (w.write address data) := by
  cases address with
  | none => rfl
  | some address => rfl

theorem sameBut_memcpy {w w' : World} {dest : Option Address} {count : Nat} {src : Option Bytes}
    {copied : Bool} (h : w.memcpy dest count src = (copied, w')) : SameBut w w' := by
  unfold World.memcpy at h
  split at h
  · cases h
    rfl
  split at h
  · cases h
    exact sameBut_write _ _ _
  · cases h
    exact sameBut_write _ _ _

theorem sameBut_releaseInput (e : NNExecutor) (w : World) (index : Nat) :
    SameBut w (e.releaseInput w index) := by
  unfold releaseInput
  split
  · rfl
  split
  · rfl
  · rfl

/-- Setting an input changes the inputs and the buffers. -/
theorem InputSet.rest {e e' : NNExecutor} {w w' : World} {index : Nat}
    {nnTensor : OHNNTensor} {buffer : Option Bytes} {length : Nat} {ret : ReturnCode}
    (h : InputSet e w index nnTensor buffer length ret e' w') :
    e' = { e with inputTensors := e'.inputTensors } ∧ SameBut w w' := by
  have hallocate : SameBut w w.allocateBuffer := rfl
  cases h with
  | refused => exact ⟨rfl, rfl⟩
  | uncopied hx ht hchecked hcopy => exact ⟨rfl, sameBut_memcpy hcopy⟩
  | discarded hchecked hcopy =>
    exact ⟨rfl, (hallocate.trans (sameBut_memcpy hcopy)).trans rfl⟩
  | reused hx ht hchecked hlength hcopy => exact ⟨rfl, sameBut_memcpy hcopy⟩
  | stored hchecked hcopy =>
    exact ⟨rfl, (hallocate.trans (sameBut_memcpy hcopy)).trans (sameBut_releaseInput e _ index)⟩

theorem InputMemorySet.rest {e e' : NNExecutor} {w w' : World} {index : Nat}
    {nnTensor : OHNNTensor} {memory : OHNNMemory} {ret : ReturnCode}
    (h : InputMemorySet e w index nnTensor memory ret e' w') :
    e' = { e with inputTensors := e'.inputTensors } ∧ SameBut w w' := by
  cases h with
  | refused => exact ⟨rfl, rfl⟩
  | stored => exact ⟨rfl, sameBut_releaseInput e w index⟩

theorem setOutputBuffer_rest {e e' : NNExecutor} {w w' : World} {env : ExecutorEnv} {index : Nat}
    {x : ExeTensor} {buffer : Option Nat} {length : Nat} {ret : ReturnCode}
    (h : e.setOutputBuffer w env index x buffer length = .ok (ret, e', w')) :
    e' = { e with outputTensors := e'.outputTensors } ∧ SameBut w w' := by
  unfold setOutputBuffer at h
  split at h
  · cases h
    exact ⟨rfl, rfl⟩
  split at h
  · cases h
  · cases h
    exact ⟨rfl, rfl⟩

/-- Setting an output changes the outputs and the buffers. -/
theorem OutputSet.rest {e e' : NNExecutor} {w w' : World} {env : ExecutorEnv} {index : Nat}
    {buffer : Option Nat} {length : Nat} {ret : ReturnCode}
    (h : OutputSet e w env index buffer length ret e' w') :
    e' = { e with outputTensors := e'.outputTensors } ∧ SameBut w w' := by
  cases h with
  | refused => exact ⟨rfl, rfl⟩
  | reused => exact ⟨rfl, rfl⟩
  | grown hchecked hx hinner ht hlength h =>
    obtain ⟨hrest, hsame⟩ := setOutputBuffer_rest h
    refine ⟨hrest, SameBut.trans ?_ hsame⟩
    rfl
  | replaced hchecked hx hinner h => exact setOutputBuffer_rest h
  | unbuilt => exact ⟨rfl, rfl⟩
  | built hchecked hx hdesc ht h =>
    obtain ⟨hrest, hsame⟩ := setOutputBuffer_rest h
    exact ⟨hrest, hsame⟩

theorem OutputMemorySet.rest {e e' : NNExecutor} {w w' : World} {env : ExecutorEnv} {index : Nat}
    {memory : OHNNMemory} {ret : ReturnCode}
    (h : OutputMemorySet e w env index memory ret e' w') :
    e' = { e with outputTensors := e'.outputTensors } ∧ SameBut w w' := by
  cases h with
  | refused => exact ⟨rfl, rfl⟩
  | replaced =>
    refine ⟨rfl, ?_⟩
    split
    · rfl
    · rfl
  | unbuilt => exact ⟨rfl, rfl⟩
  | built => exact ⟨rfl, rfl⟩

/-! ## `Run` -/

/-- As many tensors are set as there are descriptions. -/
def AllSet (e : NNExecutor) : Prop :=
  e.inputTensorDescs.length = e.inputTensors.entries.length ∧
    e.outputTensorDescs.length = e.outputTensors.entries.length

/-- The device succeeds, with dimensions for every output. -/
def RunAnswers (reply : RunReply) (outputCount : Nat) : Prop :=
  reply.code = .success ∧ reply.outputsDims.length = outputCount

/-- How `Run` ends. -/
inductive Ran (e : NNExecutor) (w : World) (env : ExecutorEnv) :
    ReturnCode → NNExecutor → World → Prop
  /-- Some tensor is not set. -/
  | refused (hset : ¬ e.AllSet) : Ran e w env .invalidParameter e w
  /-- The device returns an error, or the wrong number of dimensions. -/
  | failed {inputs outputs : List (NNTensor Address)} {ret : ReturnCode}
    (hinputs : tensorsOf e.inputTensors e.inputTensors.entries.length = some inputs)
    (houtputs : tensorsOf e.outputTensors e.outputTensors.entries.length = some outputs)
    (hret : ret ≠ .success) (hset : e.AllSet) (hanswers : ¬ RunAnswers env.run outputs.length) :
    Ran e w env ret e (deviceRun w env.run inputs outputs)
  /-- Some dimensions are refused. -/
  | dims {inputs outputs : List (NNTensor Address)} {ret : ReturnCode} {e' : NNExecutor}
    {w' : World}
    (hinputs : tensorsOf e.inputTensors e.inputTensors.entries.length = some inputs)
    (houtputs : tensorsOf e.outputTensors e.outputTensors.entries.length = some outputs)
    (hdims : setOutputDims 0 e (deviceRun w env.run inputs outputs) outputs e.outputTensorDescs
      env.run.outputsDims = (ret, e', w'))
    (hret : ret ≠ .success) (hset : e.AllSet) (hanswers : RunAnswers env.run outputs.length) :
    Ran e w env ret e' w'
  /-- The dimensions are set, and the outputs are copied or not. -/
  | copied {inputs outputs : List (NNTensor Address)} {ret : ReturnCode} {e' : NNExecutor}
    {w₁ w' : World}
    (hdescs : e.outputTensorDescs.length = e.outputTensors.entries.length)
    (hinputs : tensorsOf e.inputTensors e.inputTensors.entries.length = some inputs)
    (houtputs : tensorsOf e.outputTensors e.outputTensors.entries.length = some outputs)
    (hcode : env.run.code = .success)
    (hlength : env.run.outputsDims.length = outputs.length)
    (hdims : setOutputDims 0 e (deviceRun w env.run inputs outputs) outputs e.outputTensorDescs
      env.run.outputsDims = (.success, e', w₁))
    (hcopy : e'.copyOutputs 0 outputs.length w₁ = (ret, w')) (hset : e.AllSet) :
    Ran e w env ret e' w'

/-- **`Run` ends in one of these ways.** -/
theorem run_ran {e e' : NNExecutor} {w w' : World} {env : ExecutorEnv} {ret : ReturnCode}
    (h : e.run w env = .ok (ret, e', w')) : Ran e w env ret e' w' := by
  unfold run at h
  by_cases hin : e.inputTensorDescs.length ≠ e.inputTensors.entries.length
  · rw [if_pos hin] at h
    cases h
    exact .refused fun hset => hin hset.1
  rw [if_neg hin] at h
  by_cases hout : e.outputTensorDescs.length ≠ e.outputTensors.entries.length
  · rw [if_pos hout] at h
    cases h
    exact .refused fun hset => hout hset.2
  rw [if_neg hout] at h
  have hset : e.AllSet := ⟨not_not.mp hin, not_not.mp hout⟩
  split at h
  · rename_i inputs outputs hinputs houtputs
    unfold runTensors at h
    cases hmodel : e.preparedModel with
    | none =>
      rw [hmodel] at h
      cases h
    | some model =>
      rw [hmodel] at h
      dsimp only at h
      by_cases hcode : env.run.code = .success
      · rw [if_neg (not_not.mpr hcode)] at h
        by_cases hlength : env.run.outputsDims.length = outputs.length
        · rw [if_neg (not_not.mpr hlength)] at h
          cases hdims : setOutputDims 0 e (deviceRun w env.run inputs outputs) outputs
            e.outputTensorDescs env.run.outputsDims with
          | mk ret₁ rest =>
            obtain ⟨e₁, w₁⟩ := rest
            rw [hdims] at h
            by_cases hret : ret₁ = .success
            · subst hret
              cases h
              exact .copied hset.2 hinputs houtputs hcode hlength hdims rfl hset
            · -- Some dimensions have been set before the ones that are refused.
              have heq : (Except.ok (ret₁, e₁, w₁) : Outcome) = .ok (ret, e', w') := by
                cases ret₁ with
                | success => exact absurd rfl hret
                | _ => exact h
              cases heq
              exact .dims hinputs houtputs hdims hret hset ⟨hcode, hlength⟩
        · rw [if_pos hlength] at h
          cases h
          exact .failed hinputs houtputs nofun hset fun hanswers => hlength hanswers.2
      · rw [if_pos hcode] at h
        have heq : (Except.ok (env.run.code, e, deviceRun w env.run inputs outputs) : Outcome)
            = .ok (ret, e', w') := by
          cases hc : env.run.code with
          | success => exact absurd hc hcode
          | _ =>
            rw [hc] at h
            exact h
        cases heq
        exact .failed hinputs houtputs hcode hset fun hanswers => hcode hanswers.1
  · cases h

/-! ## The tensors of a run -/

theorem getElem?_of_mapM {α β : Type} {f : α → Option β} :
    ∀ {l : List α} {l' : List β}, l.mapM f = some l' → ∀ (k : Nat) (b : β), l'[k]? = some b →
      ∃ a, l[k]? = some a ∧ f a = some b
  | [], l', h, k, b, hb => by
    cases h
    cases hb
  | a :: l, l', h, k, b, hb => by
    rw [List.mapM_cons] at h
    cases ha : f a with
    | none =>
      rw [ha] at h
      cases h
    | some b₀ =>
      rw [ha] at h
      cases hl : l.mapM f with
      | none =>
        rw [hl] at h
        cases h
      | some bs =>
        rw [hl] at h
        cases h
        cases k with
        | zero =>
          cases hb
          exact ⟨a, rfl, ha⟩
        | succ k => exact getElem?_of_mapM hl k b hb

theorem length_of_mapM {α β : Type} {f : α → Option β} :
    ∀ {l : List α} {l' : List β}, l.mapM f = some l' → l'.length = l.length
  | [], l', h => by
    cases h
    rfl
  | a :: l, l', h => by
    rw [List.mapM_cons] at h
    obtain ⟨b, -, h⟩ := Option.bind_eq_some_iff.mp h
    obtain ⟨bs, hl, h⟩ := Option.bind_eq_some_iff.mp h
    cases h
    rw [List.length_cons, List.length_cons, length_of_mapM hl]

theorem mapM_id_eq_some {outputs : List (Option Nat)} {addresses : List Nat}
    (h : outputs.mapM id = some addresses) : outputs = addresses.map some := by
  apply List.ext_getElem?
  intro k
  rw [List.getElem?_map]
  cases hk : addresses[k]? with
  | none =>
    rw [List.getElem?_eq_none_iff, length_of_mapM h] at hk
    rw [List.getElem?_eq_none hk]
    rfl
  | some address =>
    obtain ⟨output, houtput, hid⟩ := getElem?_of_mapM h k address hk
    rw [houtput, show output = some address from hid]
    rfl

theorem tensorsOf_length {xs : AList fun _ : Nat => ExeTensor} {n : Nat}
    {ts : List (NNTensor Address)} (h : tensorsOf xs n = some ts) : ts.length = n := by
  rw [length_of_mapM h, List.length_range]

/-- The tensors of a run are those of the entries. -/
theorem tensorsOf_getElem? {xs : AList fun _ : Nat => ExeTensor} {n : Nat}
    {ts : List (NNTensor Address)} (h : tensorsOf xs n = some ts) {k : Nat} {t : NNTensor Address}
    (ht : ts[k]? = some t) : ∃ x, xs.lookup k = some x ∧ x.tensor = some t := by
  obtain ⟨i, hi, hf⟩ := getElem?_of_mapM h k t ht
  have hik : i = k := by
    obtain ⟨hlt, heq⟩ := List.getElem?_eq_some_iff.mp hi
    rw [List.getElem_range] at heq
    exact heq.symm
  subst hik
  exact Option.bind_eq_some_iff.mp hf

/-! ## The reported dimensions -/

/-- The tensors of a list are those of the entries from `i` on. -/
def Aligned (i : Nat) (e : NNExecutor) (ts : List (NNTensor Address)) : Prop :=
  ∀ (k : Nat) t, ts[k]? = some t → ∃ x, e.outputTensors.lookup (i + k) = some x ∧ x.tensor = some t

theorem aligned_of_tensorsOf {e : NNExecutor} {n : Nat} {ts : List (NNTensor Address)}
    (h : tensorsOf e.outputTensors n = some ts) : Aligned 0 e ts := by
  intro k t ht
  rw [Nat.zero_add]
  exact tensorsOf_getElem? h ht

theorem Aligned.head {i : Nat} {e : NNExecutor} {t : NNTensor Address}
    {ts : List (NNTensor Address)} (h : Aligned i e (t :: ts)) :
    ∃ x, e.outputTensors.lookup i = some x ∧ x.tensor = some t :=
  h 0 t rfl

theorem lookup_setOutputTensor {e : NNExecutor} {i : Nat} {x : ExeTensor}
    (hx : e.outputTensors.lookup i = some x) (t : NNTensor Address) (j : Nat) :
    (e.setOutputTensor i t).outputTensors.lookup j
      = if j = i then some { x with tensor := some t } else e.outputTensors.lookup j := by
  rw [setOutputTensor, hx]
  show (e.outputTensors.insert i _).lookup j = _
  by_cases hj : j = i
  · rw [if_pos hj, hj, AList.lookup_insert]
  · rw [if_neg hj, AList.lookup_insert_ne hj]

theorem Aligned.tail {i : Nat} {e : NNExecutor} {t t' : NNTensor Address}
    {ts : List (NNTensor Address)} (h : Aligned i e (t :: ts)) :
    Aligned (i + 1) (e.setOutputTensor i t') ts := by
  obtain ⟨x, hx, -⟩ := h.head
  intro k u hu
  obtain ⟨y, hy, htensor⟩ := h (k + 1) u hu
  refine ⟨y, ?_, htensor⟩
  rw [lookup_setOutputTensor hx, if_neg (by omega), ← hy]
  congr 1
  omega

/-- Two executors that differ in the dimensions of output tensors only. -/
structure SameBuffers (e e' : NNExecutor) : Prop where
  rest : e' = { e with outputTensors := e'.outputTensors }
  outputs : ∀ j, (e'.outputTensors.lookup j).map ExeTensor.view
    = (e.outputTensors.lookup j).map ExeTensor.view

theorem SameBuffers.refl (e : NNExecutor) : SameBuffers e e :=
  ⟨rfl, fun _ => rfl⟩

theorem SameBuffers.trans {e₁ e₂ e₃ : NNExecutor} (h : SameBuffers e₁ e₂)
    (h' : SameBuffers e₂ e₃) : SameBuffers e₁ e₃ := by
  refine ⟨?_, fun j => (h'.outputs j).trans (h.outputs j)⟩
  rw [h'.rest, h.rest]

theorem setOutputTensor_sameBuffers {e : NNExecutor} {i : Nat} {x : ExeTensor}
    {t : NNTensor Address} (hx : e.outputTensors.lookup i = some x) (ht : x.tensor = some t)
    (dimensions : List Int32) :
    SameBuffers e (e.setOutputTensor i (t.setDimensions dimensions).2) := by
  constructor
  · rw [setOutputTensor, hx]
    rfl
  · intro j
    rw [lookup_setOutputTensor hx]
    by_cases hj : j = i
    · rw [if_pos hj, hj, hx]
      show some _ = some _
      rw [ExeTensor.view, ExeTensor.view, ht, Option.map_some, Option.map_some,
        t.setDimensions_buffer, t.setDimensions_bufferLength]
    · rw [if_neg hj]

/-- **The dimensions the device reports** change dimensions and shapes only. -/
theorem setOutputDims_sameBuffers {i : Nat} {e e' : NNExecutor} {w w' : World}
    {ts : List (NNTensor Address)} {refs : DescRefs} {outputsDims : List (List Int32)}
    {ret : ReturnCode} (ha : Aligned i e ts)
    (h : setOutputDims i e w ts refs outputsDims = (ret, e', w')) :
    SameBuffers e e' ∧ w' = { w with descs := w'.descs } := by
  induction ts generalizing i e w refs outputsDims with
  | nil =>
    change (ReturnCode.success, e, w) = _ at h
    cases h
    exact ⟨.refl _, rfl⟩
  | cons t ts ih =>
    cases refs with
    | nil =>
      change (ReturnCode.success, e, w) = _ at h
      cases h
      exact ⟨.refl _, rfl⟩
    | cons ref refs =>
      cases outputsDims with
      | nil =>
        change (ReturnCode.success, e, w) = _ at h
        cases h
        exact ⟨.refl _, rfl⟩
      | cons dims outputsDims =>
        obtain ⟨ref, type⟩ := ref
        obtain ⟨x, hx, ht⟩ := ha.head
        have hone := setOutputTensor_sameBuffers hx ht dims
        rw [setOutputDims] at h
        cases hset : t.setDimensions dims with
        | mk ret₁ t₁ =>
          rw [hset] at h hone
          by_cases hret : ret₁ = .success
          · subst hret
            dsimp only at h
            split at h
            · obtain ⟨hrest, hw⟩ := ih ha.tail h
              refine ⟨hone.trans hrest, ?_⟩
              rw [hw]
              rfl
            · cases h
              exact ⟨hone, rfl⟩
          · have heq : (ret₁, e.setOutputTensor i t₁, w) = (ret, e', w') := by
              cases ret₁ with
              | success => exact absurd rfl hret
              | _ => exact h
            cases heq
            exact ⟨hone, rfl⟩

theorem lookup_setOutputTensor_ne {e : NNExecutor} {i j : Nat} (hj : j ≠ i)
    (t : NNTensor Address) :
    (e.setOutputTensor i t).outputTensors.lookup j = e.outputTensors.lookup j := by
  cases hx : e.outputTensors.lookup i with
  | none => rw [setOutputTensor, hx]
  | some x => rw [lookup_setOutputTensor hx, if_neg hj]

section Success

variable {i : Nat} {e e' : NNExecutor} {w w' : World} {ts : List (NNTensor Address)}
  {refs : DescRefs} {outputsDims : List (List Int32)}

/-- A round that does not end the loop has set both. -/
theorem setOutputDims_cons_success {t : NNTensor Address} {ref : Nat × UInt32} {dims : List Int32}
    (h : setOutputDims i e w (t :: ts) (ref :: refs) (dims :: outputsDims)
      = (.success, e', w')) :
    ∃ t' desc, t.setDimensions dims = (.success, t') ∧
      (w.desc ref.1).setShape dims = (.success, desc) ∧
      setOutputDims (i + 1) (e.setOutputTensor i t') (w.setDesc ref.1 desc) ts refs outputsDims
        = (.success, e', w') := by
  rw [setOutputDims] at h
  split at h
  · rename_i t' ht
    dsimp only at h
    split at h
    · rename_i desc hdesc
      exact ⟨t', desc, ht, hdesc, h⟩
    · rename_i hret _
      exact absurd h (code_ne hret)
  · rename_i hret _
    exact absurd h (code_ne hret)

/-- The loop leaves the entries before it alone. -/
theorem setOutputDims_lookup_lt (h : setOutputDims i e w ts refs outputsDims
    = (.success, e', w')) {j : Nat} (hj : j < i) :
    e'.outputTensors.lookup j = e.outputTensors.lookup j := by
  induction ts generalizing i e w refs outputsDims with
  | nil =>
    change (ReturnCode.success, e, w) = _ at h
    cases h
    rfl
  | cons t ts ih =>
    cases refs with
    | nil =>
      change (ReturnCode.success, e, w) = _ at h
      cases h
      rfl
    | cons ref refs =>
      cases outputsDims with
      | nil =>
        change (ReturnCode.success, e, w) = _ at h
        cases h
        rfl
      | cons dims outputsDims =>
        obtain ⟨t', desc, -, -, hrest⟩ := setOutputDims_cons_success h
        rw [ih hrest (by omega), lookup_setOutputTensor_ne (by omega)]

/-- **Dimensions that are all accepted** are those of the entries' tensors. -/
theorem setOutputDims_success (ha : Aligned i e ts) (hrefs : ts.length ≤ refs.length)
    (hdims : ts.length ≤ outputsDims.length)
    (h : setOutputDims i e w ts refs outputsDims = (.success, e', w')) {k : Nat}
    {t : NNTensor Address} (ht : ts[k]? = some t) :
    ∃ dims x t', outputsDims[k]? = some dims ∧ e.outputTensors.lookup (i + k) = some x ∧
      x.tensor = some t ∧ t.setDimensions dims = (.success, t') ∧
      e'.outputTensors.lookup (i + k) = some { x with tensor := some t' } := by
  induction ts generalizing i e w refs outputsDims k with
  | nil => cases ht
  | cons u ts ih =>
    cases refs with
    | nil => exact absurd hrefs (by simp)
    | cons ref refs =>
      cases outputsDims with
      | nil => exact absurd hdims (by simp)
      | cons dims outputsDims =>
        obtain ⟨u', desc, hu, -, hrest⟩ := setOutputDims_cons_success h
        obtain ⟨x, hx, htensor⟩ := ha.head
        cases k with
        | zero =>
          cases ht
          refine ⟨dims, x, u', rfl, hx, htensor, hu, ?_⟩
          rw [Nat.add_zero, setOutputDims_lookup_lt hrest (by omega), lookup_setOutputTensor hx,
            if_pos rfl]
        | succ k =>
          rw [List.getElem?_cons_succ] at ht
          obtain ⟨dims', y, t', hdims', hy, hyt, ht', hend⟩ :=
            ih ha.tail (by simpa using hrefs) (by simpa using hdims) hrest ht
          rw [lookup_setOutputTensor_ne (by omega)] at hy
          rw [show i + (k + 1) = i + 1 + k by omega]
          exact ⟨dims', y, t', hdims', hy, hyt, ht', hend⟩

end Success

/-! ## The copies -/

/-- A copy leaves the record of runs and the descriptions alone. -/
theorem copyOutput_frame {w w' : World} {x : ExeTensor} {t : NNTensor Address} {ret : ReturnCode}
    (h : copyOutput w x t = (ret, w')) : w'.runs = w.runs ∧ w'.descs = w.descs := by
  unfold copyOutput at h
  split at h
  · cases h
    exact ⟨rfl, rfl⟩
  split at h
  · cases h
    exact ⟨rfl, rfl⟩
  split at h
  · cases h
    exact ⟨rfl, rfl⟩
  split at h
  · cases h
    exact ⟨rfl, rfl⟩
  · cases h
    exact ⟨rfl, rfl⟩

theorem copyOutputs_frame {e : NNExecutor} {w w' : World} {i n : Nat} {ret : ReturnCode}
    (h : e.copyOutputs i n w = (ret, w')) : w'.runs = w.runs ∧ w'.descs = w.descs := by
  induction n generalizing i w with
  | zero =>
    cases h
    exact ⟨rfl, rfl⟩
  | succ n ih =>
    unfold copyOutputs at h
    split at h
    · exact ih h
    · rename_i x t _
      split at h
      · cases hcopy : copyOutput w x t with
        | mk ret₁ w₁ =>
          rw [hcopy] at h
          by_cases hret : ret₁ = .success
          · subst hret
            obtain ⟨hruns, hdescs⟩ := copyOutput_frame hcopy
            rw [(ih h).1, (ih h).2]
            exact ⟨hruns, hdescs⟩
          · have heq : (ret₁, w₁) = (ret, w') := by
              cases ret₁ with
              | success => exact absurd rfl hret
              | _ => exact h
            cases heq
            exact copyOutput_frame hcopy
      · exact ih h

/-! ## The other calls -/

/-- Nothing has happened to the tensors that are set, to the buffers or to what
they hold. -/
structure Quiet (s s' : NNExecutor × World) : Prop where
  inputTensors : s'.1.inputTensors = s.1.inputTensors
  outputTensors : s'.1.outputTensors = s.1.outputTensors
  log : s'.2.log = s.2.log
  memory : s'.2.memory = s.2.memory

theorem Quiet.refl (s : NNExecutor × World) : Quiet s s :=
  ⟨rfl, rfl, rfl, rfl⟩

theorem Quiet.trans {s₁ s₂ s₃ : NNExecutor × World} (h : Quiet s₁ s₂) (h' : Quiet s₂ s₃) :
    Quiet s₁ s₃ :=
  ⟨h'.inputTensors.trans h.inputTensors, h'.outputTensors.trans h.outputTensors,
    h'.log.trans h.log, h'.memory.trans h.memory⟩

section Quiet

variable {e e' : NNExecutor} {w w' : World} {ret : ReturnCode}

theorem reload_quiet {env : ReloadEnv} (h : e.reload w env = .ok (ret, e', w')) :
    Quiet (e, w) (e', w') := by
  cases reload_reloaded h with
  | refused => exact ⟨rfl, rfl, rfl, rfl⟩
  | unprepared => exact ⟨rfl, rfl, rfl, rfl⟩
  | prepared => exact ⟨rfl, rfl, rfl, rfl⟩

theorem autoReload_quiet {env : ReloadEnv} (h : e.autoReload w env = .ok (ret, e', w')) :
    Quiet (e, w) (e', w') := by
  unfold autoReload at h
  split at h
  · cases h
  · rename_i e₁ w₁ hreload
    split at h
    · cases h
    · cases h
      exact reload_quiet hreload
  · rename_i hreload
    cases h
    exact reload_quiet hreload

theorem setTensorShape_quiet {address : Nat} {dims : List Int32}
    (h : setTensorShape w address dims = .ok (ret, w')) :
    w' = { w with tensors := w'.tensors } := by
  unfold setTensorShape at h
  split at h
  · cases h
  split at h
  · cases h
    rfl
  split at h
  · cases h
    rfl
  · cases h
    rfl

theorem setSyncDims_quiet {addresses : List Nat} {refs : DescRefs}
    {outputsDims : List (List Int32)}
    (h : setSyncDims w addresses refs outputsDims = .ok (ret, w')) :
    w' = { w with tensors := w'.tensors, descs := w'.descs } := by
  induction addresses generalizing w refs outputsDims with
  | nil =>
    cases h
    rfl
  | cons address addresses ih =>
    cases outputsDims with
    | nil =>
      cases h
      rfl
    | cons dims outputsDims =>
      unfold setSyncDims at h
      split at h
      · cases h
      · rename_i w₁ hshape
        have hw₁ := setTensorShape_quiet hshape
        split at h
        · cases h
        split at h
        · rw [ih h, hw₁]
          rfl
        · cases h
          rw [hw₁]
      · rename_i hshape
        cases h
        rw [setTensorShape_quiet hshape]

theorem setAippDims_quiet {refs : DescRefs} {outputsDims : List (List Int32)}
    (h : setAippDims w refs outputsDims = .ok (ret, w')) :
    w' = { w with descs := w'.descs } := by
  induction outputsDims generalizing w refs with
  | nil =>
    unfold setAippDims at h
    cases h
    rfl
  | cons dims outputsDims ih =>
    unfold setAippDims at h
    split at h
    · cases h
    split at h
    · rw [ih h]
      rfl
    · cases h
      rfl

theorem runSyncTensors_quiet {env : ExecutorEnv} {inputTensors outputTensors : List (Option Nat)}
    (h : e.runSyncTensors w env inputTensors outputTensors = .ok (ret, e', w')) :
    Quiet (e, w) (e', w') := by
  unfold runSyncTensors at h
  split at h
  · cases h
  split at h
  · cases h
    exact .refl _
  split at h
  · split at h
    · cases h
    dsimp only at h
    split at h
    · cases h
      exact ⟨rfl, rfl, rfl, rfl⟩
    split at h
    · cases h
      exact ⟨rfl, rfl, rfl, rfl⟩
    split at h
    · cases h
    · rename_i hdims
      cases h
      rw [setSyncDims_quiet hdims]
      exact ⟨rfl, rfl, rfl, rfl⟩
    · rename_i hdims
      cases h
      rw [setSyncDims_quiet hdims]
      exact ⟨rfl, rfl, rfl, rfl⟩
  · cases h
    exact .refl _

theorem runAippModel_quiet {env : ExecutorEnv} {inputTensors outputTensors : List (Option Nat)}
    (h : e.runAippModel w env inputTensors outputTensors = .ok (ret, e', w')) :
    Quiet (e, w) (e', w') := by
  unfold runAippModel at h
  split at h
  · split at h
    · cases h
    split at h
    · cases h
      exact .refl _
    dsimp only at h
    split at h
    · cases h
      exact ⟨rfl, rfl, rfl, rfl⟩
    split at h
    · cases h
      exact ⟨rfl, rfl, rfl, rfl⟩
    split at h
    · cases h
    · rename_i hdims
      cases h
      rw [setAippDims_quiet hdims]
      exact ⟨rfl, rfl, rfl, rfl⟩
  · cases h
    exact .refl _

theorem runAippTensors_quiet {env : ExecutorEnv} {inputTensors outputTensors : List (Option Nat)}
    (h : e.runAippTensors w env inputTensors outputTensors = .ok (ret, e', w')) :
    Quiet (e, w) (e', w') := by
  unfold runAippTensors at h
  split at h
  · cases h
  split at h
  · cases h
    exact .refl _
  split at h
  · cases h
  · rename_i hrun
    cases h
    exact (runAippModel_quiet hrun).trans ⟨rfl, rfl, rfl, rfl⟩
  · rename_i hrun
    cases h
    exact runAippModel_quiet hrun

/-- What `RunSync` and `RunSyncWithAipp` do without a prepared model. -/
def reloadAndRun (runTensors : NNExecutor → World → Outcome) (e : NNExecutor) (w : World)
    (env : ReloadEnv) : Outcome :=
  match e.autoReload w env with
  | .error fault => .error fault
  | .ok (.success, e, w) => runTensors e w
  | .ok (ret, e, w) => .ok (ret, e, w)

/-- `RunSync` and `RunSyncWithAipp`, which differ in how they run the tensors. -/
def syncWith (runTensors : NNExecutor → World → Outcome) (e : NNExecutor) (w : World)
    (env : ReloadEnv) (inputTensors outputTensors : List (Option Nat)) : Outcome :=
  match e.autoUnloadHandler with
  | none => .error (.nullDeref .autoUnloadHandler)
  | some _ =>
    let e := { e with autoUnloadHandler := some 0 }
    if e.inputTensorDescs.length ≠ inputTensors.length then .ok (.invalidParameter, e, w)
    else if e.outputTensorDescs.length ≠ outputTensors.length then .ok (.invalidParameter, e, w)
    else if e.preparedModel.isSome then runTensors e w
    else reloadAndRun runTensors e w env

theorem runSync_eq (e : NNExecutor) (w : World) (env : ExecutorEnv) (reloadEnv : ReloadEnv)
    (inputTensors outputTensors : List (Option Nat)) :
    e.runSync w env reloadEnv inputTensors outputTensors
      = syncWith (fun e w => e.runSyncTensors w env inputTensors outputTensors) e w reloadEnv
          inputTensors outputTensors := rfl

theorem runSyncWithAipp_eq (e : NNExecutor) (w : World) (env : ExecutorEnv) (reloadEnv : ReloadEnv)
    (inputTensors outputTensors : List (Option Nat)) :
    e.runSyncWithAipp w env reloadEnv inputTensors outputTensors
      = syncWith (fun e w => e.runAippTensors w env inputTensors outputTensors) e w reloadEnv
          inputTensors outputTensors := rfl

theorem syncWith_quiet {runTensors : NNExecutor → World → Outcome} {env : ReloadEnv}
    {inputTensors outputTensors : List (Option Nat)}
    (hrun : ∀ e w ret e' w', runTensors e w = .ok (ret, e', w') → Quiet (e, w) (e', w'))
    (h : syncWith runTensors e w env inputTensors outputTensors = .ok (ret, e', w')) :
    Quiet (e, w) (e', w') := by
  unfold syncWith at h
  split at h
  · cases h
  dsimp only at h
  have hhandler : Quiet (e, w) ({ e with autoUnloadHandler := some 0 }, w) := ⟨rfl, rfl, rfl, rfl⟩
  split at h
  · cases h
    exact hhandler
  split at h
  · cases h
    exact hhandler
  split at h
  · exact hhandler.trans (hrun _ _ _ _ _ h)
  · unfold reloadAndRun at h
    split at h
    · cases h
    · rename_i hreload
      exact (hhandler.trans (autoReload_quiet hreload)).trans (hrun _ _ _ _ _ h)
    · rename_i hreload
      cases h
      exact hhandler.trans (autoReload_quiet hreload)

/-- Pushing ranges changes the two lists of ranges. -/
theorem pushDimRanges_vecs (minDims maxDims : List (List UInt32)) :
    ∃ mins maxs, (e.pushDimRanges minDims maxDims).2
      = { e with minInputDimsVec := mins, maxInputDimsVec := maxs } := by
  induction minDims generalizing e maxDims with
  | nil => exact ⟨_, _, rfl⟩
  | cons mins minDims ih =>
    cases maxDims with
    | nil => exact ⟨_, _, rfl⟩
    | cons maxs maxDims =>
      unfold pushDimRanges
      split
      · exact ⟨_, _, rfl⟩
      · obtain ⟨mins', maxs', h⟩ := @ih { e with
          minInputDimsVec := e.minInputDimsVec ++ [mins.map UInt32.toNat]
          maxInputDimsVec := e.maxInputDimsVec ++ [maxs.map UInt32.toNat] } maxDims
        exact ⟨mins', maxs', h⟩

/-- So does asking for a range. -/
theorem getInputDimRange_vecs {env : ExecutorEnv} {inputIndex : Nat} {args : DimRangeArgs}
    {range : Option (List Nat × List Nat)}
    (h : e.getInputDimRange env inputIndex args = .ok (ret, e', range)) :
    ∃ mins maxs, e' = { e with minInputDimsVec := mins, maxInputDimsVec := maxs } := by
  have hvec : ∀ ret₁ e₁, e.getInputDimVec env = .ok (ret₁, e₁) →
      ∃ mins maxs, e₁ = { e with minInputDimsVec := mins, maxInputDimsVec := maxs } := by
    intro ret₁ e₁ hvec
    unfold getInputDimVec at hvec
    split at hvec
    · cases hvec
    split at hvec
    · cases hvec
      exact ⟨_, _, rfl⟩
    split at hvec
    · cases hvec
      exact ⟨_, _, rfl⟩
    · have hpush := @pushDimRanges_vecs e env.dimRanges.minInputDims env.dimRanges.maxInputDims
      rw [Except.ok.inj hvec] at hpush
      exact hpush
  unfold getInputDimRange at h
  split at h
  · cases h
    exact ⟨_, _, rfl⟩
  split at h
  · cases h
    exact ⟨_, _, rfl⟩
  split at h
  · cases h
    exact ⟨_, _, rfl⟩
  split at h
  · split at h
    · cases h
    · rename_i hask
      cases h
      exact hvec _ _ hask
    · rename_i hask
      cases h
      exact hvec _ _ hask
  · cases h
    exact ⟨_, _, rfl⟩

theorem deinitModel_rest (e : NNExecutor) (env : ExecutorEnv) (mode : String) :
    ∃ model handler, (e.deinitModel env mode).2
      = { e with preparedModel := model, autoUnloadHandler := handler } := by
  unfold deinitModel
  split
  · exact ⟨_, _, rfl⟩
  split
  · exact ⟨_, _, rfl⟩
  · exact ⟨_, _, rfl⟩

theorem setExtensionConfig_rest (e : NNExecutor) (env : ExecutorEnv)
    (configs : List (String × Bytes)) :
    ∃ config, (e.setExtensionConfig env configs).2 = { e with executorConfig := config } := by
  unfold setExtensionConfig
  split
  · exact ⟨_, rfl⟩
  dsimp only
  split
  · exact ⟨_, rfl⟩
  · exact ⟨_, rfl⟩

theorem autoUnload_rest (e : NNExecutor) (env : ExecutorEnv) :
    ∃ model handler, e.autoUnload env
      = { e with preparedModel := model, autoUnloadHandler := handler } := by
  unfold autoUnload
  split
  · rename_i n _
    obtain ⟨model, handler, h⟩ :=
      deinitModel_rest { e with autoUnloadHandler := some n } env "DelayUnload"
    exact ⟨model, handler, h⟩
  · exact ⟨_, _, rfl⟩

theorem destroyPreparedModel_rest (e : NNExecutor) :
    ∃ model handler, e.destroyPreparedModel.2
      = { e with preparedModel := model, autoUnloadHandler := handler } := by
  unfold destroyPreparedModel
  dsimp only
  split
  · exact ⟨_, _, rfl⟩
  · exact ⟨_, _, rfl⟩

/-- What an outcome leaves. -/
theorem state_of_ok {ret₁ : ReturnCode} {e₁ : NNExecutor} {w₁ : World}
    (h : (Except.ok (ret₁, e₁, w₁) : Outcome) = .ok (ret, e', w')) : e' = e₁ ∧ w' = w₁ := by
  cases h
  exact ⟨rfl, rfl⟩

/-- The calls that set a tensor, and `Run`. -/
def SetsOrRuns : ExecutorCall → Prop
  | .setInput .. | .setInputFromMemory .. | .setOutput .. | .setOutputFromMemory .. | .run => True
  | _ => False

/-- **The other calls** are quiet. -/
theorem perform_quiet {env : ExecutorEnv} {call : ExecutorCall} (hcall : ¬ SetsOrRuns call)
    (h : call.perform e w env = .ok (ret, e', w')) : Quiet (e, w) (e', w') := by
  cases call with
  | setInput | setInputFromMemory | setOutput | setOutputFromMemory | run =>
    exact absurd trivial hcall
  | runSync reloadEnv inputTensors outputTensors =>
    exact syncWith_quiet (fun _ _ _ _ _ => runSyncTensors_quiet) h
  | runSyncWithAipp reloadEnv inputTensors outputTensors =>
    exact syncWith_quiet (fun _ _ _ _ _ => runAippTensors_quiet) h
  | getInputDimRange inputIndex args =>
    unfold ExecutorCall.perform at h
    dsimp only at h
    split at h
    · cases h
    · rename_i hrange
      cases h
      obtain ⟨mins, maxs, rfl⟩ := getInputDimRange_vecs hrange
      exact ⟨rfl, rfl, rfl, rfl⟩
  | setExtensionConfig configs =>
    obtain ⟨config, hrest⟩ := e.setExtensionConfig_rest env configs
    have hstate : e' = (e.setExtensionConfig env configs).2 ∧ w' = w := state_of_ok h
    rw [hstate.1, hstate.2, hrest]
    exact ⟨rfl, rfl, rfl, rfl⟩
  | deinitModel mode =>
    obtain ⟨model, handler, hrest⟩ := e.deinitModel_rest env mode
    have hstate : e' = (e.deinitModel env mode).2 ∧ w' = w := state_of_ok h
    rw [hstate.1, hstate.2, hrest]
    exact ⟨rfl, rfl, rfl, rfl⟩
  | autoUnload =>
    obtain ⟨model, handler, hrest⟩ := e.autoUnload_rest env
    have hstate : e' = e.autoUnload env ∧ w' = w := state_of_ok h
    rw [hstate.1, hstate.2, hrest]
    exact ⟨rfl, rfl, rfl, rfl⟩
  | destroyPreparedModel =>
    obtain ⟨model, handler, hrest⟩ := e.destroyPreparedModel_rest
    have hstate : e' = e.destroyPreparedModel.2 ∧ w' = w := state_of_ok h
    rw [hstate.1, hstate.2, hrest]
    exact ⟨rfl, rfl, rfl, rfl⟩
  | createInputMemory | createOutputMemory | destroyInputMemory | destroyOutputMemory =>
    cases h
    exact ⟨rfl, rfl, rfl, rfl⟩

end Quiet

end NNExecutor

end NNRt
