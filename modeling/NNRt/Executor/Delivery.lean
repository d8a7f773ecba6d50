import NNRt.Executor.Ownership

/-!
# What the device is given for an input

A run keeps, next to the executor, what the last successful setter of every
input was given (`track`).

- `Carries`: an entry holds what its setter was given.
- `Delivers`: every entry does. `track_delivers`: every call keeps this; calls
  for other inputs, failed calls and runs change nothing.
- `delivered_iff`: **the device is given all of it**, except for the name, which
  is delivered iff it is empty.
-/

namespace NNRt

/-- Where the data of an input comes from. -/
inductive Source
  /-- The user's buffer of `SetInput`. -/
  | copied (data : Bytes)
  /-- The memory of `SetInputFromMemory`. -/
  | handed (memory : OHNNMemory)

/-- What a setter of an input was given, with the format and the name of the
input's description. -/
structure Delivered where
  dataType : Option DataType
  dimensions : List Int32
  format : Format
  name : Bytes
  source : Source

/-- The data at a place is the source's. -/
def Source.At (w : World) (dataLength : Nat) (address : Option Address) (length : Nat) :
    Source → Prop
  | .copied data => ∃ a, address = some a ∧ (w.memory a).take dataLength = data.take dataLength
  | .handed memory => address = some (.user memory.data) ∧ length = memory.length

/-- An entry holds what its setter was given. -/
structure Carries (w : World) (x : ExeTensor) (t : NNTensor Address) (d : Delivered) : Prop where
  tensor : x.tensor = some t
  dataType : d.dataType = some t.dataType
  dimensions : t.dimensions = d.dimensions
  format : t.format = d.format
  name : t.name = d.name
  length : t.dataLength ≤ t.bufferLength
  /-- Only a buffer the executor owns holds a copy. -/
  owned : ∀ data, d.source = .copied data → ∃ id, x.innerBuffer = some id
  source : d.source.At w t.dataLength t.buffer t.bufferLength

namespace NNExecutor

/-- What a setter is given for the input it sets. -/
def given (e : NNExecutor) (w : World) (index : Nat) (nnTensor : OHNNTensor) (source : Source) :
    Option Delivered :=
  (e.inputTensorDescs[index]?).map fun desc =>
    { dataType := nnTensor.dataType
      dimensions := nnTensor.dimensions.toVector
      format := (w.desc desc.1).format
      name := (w.desc desc.1).name.val
      source := source }

/-- The last setters after a call. -/
def track (m : Nat → Option Delivered) (s : NNExecutor × World)
    (call : ExecutorEnv × ExecutorCall) : Nat → Option Delivered :=
  match call.2.perform s.1 s.2 call.1 with
  | .ok (.success, _) =>
    match call.2 with
    | .setInput index nnTensor buffer _ =>
      Function.update m index (s.1.given s.2 index nnTensor (.copied (buffer.getD [])))
    | .setInputFromMemory index nnTensor memory =>
      Function.update m index (s.1.given s.2 index nnTensor (.handed memory))
    | _ => m
  | _ => m

/-- One call, and the last setters after it. -/
def trackedStep (s : (NNExecutor × World) × (Nat → Option Delivered))
    (call : ExecutorEnv × ExecutorCall) :
    Except Fault ((NNExecutor × World) × (Nat → Option Delivered)) :=
  (step s.1 call).map fun s' => (s', track s.2 s.1 call)

/-- The user's buffer is there and as long as the caller says. -/
def HasBuffer : ExecutorCall → Prop
  | .setInput _ _ buffer length => ∃ data, buffer = some data ∧ length ≤ data.length
  | _ => True

/-- Every entry holds what its last setter was given. -/
structure Delivers (s : NNExecutor × World) (m : Nat → Option Delivered) : Prop where
  unset : ∀ index, s.1.inputTensors.lookup index = none → m index = none
  set : ∀ index x, s.1.inputTensors.lookup index = some x →
    ∃ d t, m index = some d ∧ Carries s.2 x t d

/-! ## Memory -/

section Memory

variable {w w' : World}

theorem memory_write (w : World) (address : Address) (data : Bytes) :
    (w.write (some address) data).memory
      = Function.update w.memory address (data ++ (w.memory address).drop data.length) := rfl

/-- A copy that fails although there is something to copy has written nothing. -/
theorem memory_memcpy_false {dest : Option Address} {count : Nat} {data : Bytes}
    (h : w.memcpy dest count (some data) = (false, w')) : w'.memory = w.memory := by
  unfold World.memcpy at h
  split at h
  · cases h
    rfl
  · cases dest with
    | none =>
      cases h
      rfl
    | some address => cases h

theorem memory_memcpy_true {dest : Option Address} {count : Nat} {data : Bytes}
    (h : w.memcpy dest count (some data) = (true, w')) :
    0 < count ∧ ∃ address, dest = some address ∧
      w'.memory = Function.update w.memory address
        (data.take count ++ (w.memory address).drop (data.take count).length) := by
  unfold World.memcpy at h
  split at h
  · cases h
  · rename_i hcount
    have hpos : 0 < count := by
      simp only [memcpySucceeds, Bool.not_eq_true] at hcount
      have hdecide : 0 < count ∧ count ≤ 2 ^ 31 - 1 := by simpa using hcount
      exact hdecide.1
    cases dest with
    | none => cases h
    | some address =>
      cases h
      exact ⟨hpos, address, rfl, rfl⟩

/-- What was copied is what is read. -/
theorem take_copied {data old : Bytes} {count : Nat} (hlength : count ≤ data.length) :
    (data.take count ++ old.drop (data.take count).length).take count = data.take count := by
  rw [List.take_append_of_le_length (by rw [List.length_take]; omega), List.take_take, min_self]

end Memory

/-! ## Entries -/

section Entries

variable {e e' : NNExecutor} {w w' : World} {m : Nat → Option Delivered} {index : Nat}
  {x : ExeTensor} {t : NNTensor Address} {d : Delivered}

theorem buffer_of_innerBuffer {id : Nat} (ht : x.tensor = some t) (hid : x.innerBuffer = some id) :
    t.buffer = some (.inner id) := by
  rw [ExeTensor.innerBuffer, ht] at hid
  have hinner : Address.inner? t.buffer = some id := hid
  cases hbuffer : t.buffer with
  | none =>
    rw [hbuffer] at hinner
    cases hinner
  | some address =>
    cases address with
    | inner id' =>
      rw [hbuffer] at hinner
      cases hinner
      rfl
    | user address =>
      rw [hbuffer] at hinner
      cases hinner

/-- Only the memory of the entry's own buffer matters. -/
theorem carries_congr (hc : Carries w x t d)
    (hmemory : ∀ id, x.innerBuffer = some id → w'.memory (.inner id) = w.memory (.inner id)) :
    Carries w' x t d := by
  refine ⟨hc.tensor, hc.dataType, hc.dimensions, hc.format, hc.name, hc.length, hc.owned, ?_⟩
  have hsource := hc.source
  cases hd : d.source with
  | copied data =>
    rw [hd] at hsource
    obtain ⟨a, ha, hdata⟩ := hsource
    obtain ⟨id, hid⟩ := hc.owned data hd
    have hbuffer := buffer_of_innerBuffer hc.tensor hid
    rw [ha] at hbuffer
    cases hbuffer
    refine ⟨_, ha, ?_⟩
    rw [hmemory id hid]
    exact hdata
  | handed memory =>
    rw [hd] at hsource
    exact hsource

theorem holds_input (hx : e.inputTensors.lookup index = some x) :
    e.holds (.input index) = x.innerBuffer := by
  rw [holds, hx]
  rfl

/-- Entries that stay, and buffers that nobody writes to. -/
theorem Delivers.frame (hd : Delivers (e, w) m) (hinputs : e'.inputTensors = e.inputTensors)
    (hmemory : ∀ i id, e.holds (.input i) = some id →
      w'.memory (.inner id) = w.memory (.inner id)) : Delivers (e', w') m := by
  constructor
  · intro i hi
    rw [hinputs] at hi
    exact hd.unset i hi
  · intro i x hx
    rw [hinputs] at hx
    obtain ⟨d, t, hm, hc⟩ := hd.set i x hx
    refine ⟨d, t, hm, carries_congr hc fun id hid => hmemory i id ?_⟩
    rw [holds_input hx]
    exact hid

/-- An entry that is set, while nobody writes to the buffers of the others. -/
theorem Delivers.put (hd : Delivers (e, w) m)
    (hmemory : ∀ i id, i ≠ index → e.holds (.input i) = some id →
      w'.memory (.inner id) = w.memory (.inner id)) (hc : Carries w' x t d) :
    Delivers (e.putInput index x, w') (Function.update m index (some d)) := by
  constructor
  · intro i hi
    rw [inputTensors_putInput] at hi
    by_cases heq : i = index
    · rw [heq, AList.lookup_insert] at hi
      cases hi
    · rw [AList.lookup_insert_ne heq] at hi
      rw [Function.update_of_ne heq]
      exact hd.unset i hi
  · intro i y hy
    rw [inputTensors_putInput] at hy
    by_cases heq : i = index
    · subst heq
      rw [AList.lookup_insert] at hy
      cases hy
      exact ⟨d, t, Function.update_self .., hc⟩
    · rw [AList.lookup_insert_ne heq] at hy
      rw [Function.update_of_ne heq]
      obtain ⟨d', t', hm, hc'⟩ := hd.set i y hy
      refine ⟨d', t', hm, carries_congr hc' fun id hid => hmemory i id heq ?_⟩
      rw [holds_input hy]
      exact hid

/-- A tensor that is built is as the setter and the description say. -/
theorem buildInputTensor_given {nnTensor : OHNNTensor} (source : Source)
    (h : e.buildInputTensor w index nnTensor = (.success, t)) :
    ∃ d, e.given w index nnTensor source = some d ∧ d.source = source ∧
      d.dataType = some t.dataType ∧ t.dimensions = d.dimensions ∧ t.format = d.format ∧
      t.name = d.name := by
  unfold buildInputTensor at h
  split at h
  · cases h
  rename_i ref type hdesc
  have hgiven : e.given w index nnTensor source = some ⟨nnTensor.dataType,
      nnTensor.dimensions.toVector, (w.desc ref).format, (w.desc ref).name.val, source⟩ := by
    rw [given, hdesc]
    rfl
  refine ⟨_, hgiven, rfl, ?_⟩
  split at h
  · rename_i u hu
    obtain ⟨hdata, hdimensions⟩ := NNTensor.buildFromOHNNTensor_success hu
    split at h
    · cases h
    dsimp only at h
    split at h
    · cases h
    · cases h
      exact ⟨hdata, hdimensions, rfl, rfl⟩
  · rename_i hret _
    exact absurd h (code_ne hret)

end Entries

/-! ## Calls -/

section Calls

variable {e e' : NNExecutor} {w w' : World} {m : Nat → Option Delivered} {index : Nat}
  {nnTensor : OHNNTensor} {ret : ReturnCode}

theorem memory_releaseInput (e : NNExecutor) (w : World) (index : Nat) :
    (e.releaseInput w index).memory = w.memory := by
  unfold releaseInput
  split
  · rfl
  split
  · rfl
  · rfl

/-- The buffers of other inputs are not the one of this input. -/
theorem Tracked.inner_ne (hs : Tracked (e, w)) {i id id' : Nat} {p : Place}
    (hi : e.holds (.input i) = some id) (hp : e.holds p = some id') (hne : p ≠ .input i) :
    Address.inner id ≠ .inner id' := by
  intro heq
  cases heq
  exact hne (hs.named.distinct p (.input i) id hp hi)

/-- The buffers that are held are not the next one. -/
theorem Tracked.inner_ne_nextBuffer (hs : Tracked (e, w)) {p : Place} {id : Nat}
    (hp : e.holds p = some id) : Address.inner id ≠ .inner w.nextBuffer := by
  intro heq
  cases heq
  exact hs.numbered.fresh (hs.named.acquired p _ hp)

theorem InputSet.delivers {data : Bytes} {length : Nat} (hs : Tracked (e, w))
    (hd : Delivers (e, w) m) (hdata : length ≤ data.length)
    (h : InputSet e w index nnTensor (some data) length ret e' w') :
    (ret ≠ .success → Delivers (e', w') m) ∧
      (ret = .success → Delivers (e', w')
        (Function.update m index (e.given w index nnTensor (.copied data)))) := by
  cases h with
  | refused hret => exact ⟨fun _ => hd, fun hsuccess => absurd hsuccess hret⟩
  | uncopied hx ht hchecked hcopy =>
    refine ⟨fun _ => hd.frame rfl fun i id _ => ?_, nofun⟩
    rw [memory_memcpy_false hcopy]
  | discarded hchecked hcopy =>
    refine ⟨fun _ => hd.frame rfl fun i id _ => ?_, nofun⟩
    show _ = w.allocateBuffer.memory (.inner id)
    rw [← memory_memcpy_false hcopy]
    rfl
  | @reused x t inputTensor w' hx ht hchecked hlength hcopy =>
    refine ⟨fun hret => absurd rfl hret, fun _ => ?_⟩
    obtain ⟨hbuild, -, hle⟩ := hchecked
    obtain ⟨d, hgiven, hsource, hdataType, hdimensions, hformat, hname⟩ :=
      buildInputTensor_given (.copied data) hbuild
    obtain ⟨hpos, address, haddress, hmemory⟩ := memory_memcpy_true hcopy
    -- Something was copied, so the current buffer is one the executor has allocated.
    have hinner : x.isInnerMem = true := by
      by_contra hinner
      rw [curBufferLength, hx] at hlength
      dsimp only at hlength
      rw [if_neg hinner] at hlength
      omega
    obtain ⟨id, hid⟩ := (hs.marked.input index x hx).innerBuffer_eq_some hinner
    have hheld : e.holds (.input index) = some id := (holds_input hx).trans hid
    have hbuffer := buffer_of_innerBuffer ht hid
    rw [haddress] at hbuffer
    cases hbuffer
    rw [hgiven]
    refine hd.put (t := inputTensor.setBuffer t.buffer (e.curBufferLength index))
      (fun i id' hi hid' => ?_) ⟨rfl, hdataType, hdimensions, hformat, hname, hlength,
        fun _ _ => ⟨id, ?_⟩, ?_⟩
    · rw [hmemory, Function.update_of_ne]
      exact hs.inner_ne hid' hheld (by simpa using Ne.symm hi)
    · show Address.inner? t.buffer = some id
      rw [haddress]
      rfl
    · rw [hsource]
      refine ⟨.inner id, haddress, ?_⟩
      rw [hmemory, Function.update_self]
      exact take_copied (hle.trans hdata)
  | @stored inputTensor w₁ hchecked hcopy =>
    refine ⟨fun hret => absurd rfl hret, fun _ => ?_⟩
    obtain ⟨hbuild, -, hle⟩ := hchecked
    obtain ⟨d, hgiven, hsource, hdataType, hdimensions, hformat, hname⟩ :=
      buildInputTensor_given (.copied data) hbuild
    obtain ⟨hpos, address, haddress, hmemory⟩ := memory_memcpy_true hcopy
    cases haddress
    rw [hgiven]
    refine hd.put (t := inputTensor.setBuffer (some (.inner w.nextBuffer)) length)
      (fun i id' hi hid' => ?_) ⟨rfl, hdataType, hdimensions, hformat, hname, hle,
        fun _ _ => ⟨w.nextBuffer, rfl⟩, ?_⟩
    · rw [memory_releaseInput, hmemory, Function.update_of_ne (hs.inner_ne_nextBuffer hid')]
      rfl
    · rw [hsource]
      refine ⟨.inner w.nextBuffer, rfl, ?_⟩
      rw [memory_releaseInput, hmemory, Function.update_self]
      exact take_copied (hle.trans hdata)

theorem InputMemorySet.delivers {memory : OHNNMemory} (hd : Delivers (e, w) m)
    (h : InputMemorySet e w index nnTensor memory ret e' w') :
    (ret ≠ .success → Delivers (e', w') m) ∧
      (ret = .success → Delivers (e', w')
        (Function.update m index (e.given w index nnTensor (.handed memory)))) := by
  cases h with
  | refused hret => exact ⟨fun _ => hd, fun hsuccess => absurd hsuccess hret⟩
  | @stored inputTensor hchecked =>
    refine ⟨fun hret => absurd rfl hret, fun _ => ?_⟩
    obtain ⟨hbuild, -, hle⟩ := hchecked
    obtain ⟨d, hgiven, hsource, hdataType, hdimensions, hformat, hname⟩ :=
      buildInputTensor_given (.handed memory) hbuild
    rw [hgiven]
    refine hd.put (t := inputTensor.setBuffer (some (.user memory.data)) memory.length)
      (fun i id' hi hid' => ?_) ⟨rfl, hdataType, hdimensions, hformat, hname, hle,
        fun data hcopied => ?_, ?_⟩
    · rw [memory_releaseInput]
    · rw [hsource] at hcopied
      cases hcopied
    · rw [hsource]
      exact ⟨rfl, rfl⟩

/-- A new device buffer holds nothing, and inputs stay. -/
theorem setOutputBuffer_frame {env : ExecutorEnv} {x : ExeTensor} {buffer : Option Nat}
    {length : Nat} (h : e.setOutputBuffer w env index x buffer length = .ok (ret, e', w')) :
    e'.inputTensors = e.inputTensors ∧ w'.memory = w.memory := by
  rcases setOutputBuffer_eq h with ⟨-, rfl, rfl⟩ | ⟨-, rfl, t, -, rfl⟩
  · exact ⟨rfl, rfl⟩
  · exact ⟨rfl, rfl⟩

theorem OutputSet.frame {env : ExecutorEnv} {buffer : Option Nat} {length : Nat}
    (h : OutputSet e w env index buffer length ret e' w') :
    e'.inputTensors = e.inputTensors ∧ w'.memory = w.memory := by
  cases h with
  | refused => exact ⟨rfl, rfl⟩
  | reused => exact ⟨rfl, rfl⟩
  | grown hchecked hx hinner ht hlength h => exact (setOutputBuffer_frame h :)
  | replaced hchecked hx hinner h => exact setOutputBuffer_frame h
  | unbuilt => exact ⟨rfl, rfl⟩
  | built hchecked hx hdesc ht h => exact (setOutputBuffer_frame h :)

theorem OutputMemorySet.frame {env : ExecutorEnv} {memory : OHNNMemory}
    (h : OutputMemorySet e w env index memory ret e' w') :
    e'.inputTensors = e.inputTensors ∧ w'.memory = w.memory := by
  cases h with
  | refused => exact ⟨rfl, rfl⟩
  | @replaced x t =>
    refine ⟨rfl, ?_⟩
    split
    · rfl
    · rfl
  | unbuilt => exact ⟨rfl, rfl⟩
  | built => exact ⟨rfl, rfl⟩

/-- The device writes to the buffers of outputs only. -/
theorem deviceRun_memory (hs : Tracked (e, w)) {env : ExecutorEnv}
    {inputs outputs : List (NNTensor Address)}
    (houtputs : tensorsOf e.outputTensors e.outputTensors.entries.length = some outputs)
    {i id : Nat} (hid : e.holds (.input i) = some id) :
    (deviceRun w env.run inputs outputs).memory (.inner id) = w.memory (.inner id) := by
  show (if some (.inner id) ∈ outputs.map NNTensor.buffer then _ else _) = _
  rw [if_neg]
  · rfl
  intro hmem
  obtain ⟨t, ht, hbuffer⟩ := List.mem_map.mp hmem
  obtain ⟨k, hk⟩ := List.mem_iff_getElem?.mp ht
  obtain ⟨x, hx, htensor⟩ := tensorsOf_getElem? houtputs hk
  have hheld : e.holds (.output k) = some id := by
    rw [holds, hx]
    show Address.inner? (x.tensor.bind NNTensor.buffer) = _
    rw [htensor]
    show Address.inner? t.buffer = _
    rw [hbuffer]
    rfl
  exact hs.inner_ne hid hheld (by simp) rfl

theorem copyOutput_memory {x : ExeTensor} {t : NNTensor Address} (h : copyOutput w x t = (ret, w'))
    (id : Nat) : w'.memory (.inner id) = w.memory (.inner id) := by
  unfold copyOutput at h
  split at h
  · cases h
    rfl
  split at h
  · cases h
    rfl
  split at h
  · cases h
    rfl
  split at h
  · cases h
    rfl
  · cases h
    rw [memory_write, Function.update_of_ne (by simp)]
    rfl

/-- Outputs are copied to the user's memory. -/
theorem copyOutputs_memory {i n : Nat} (h : e.copyOutputs i n w = (ret, w')) (id : Nat) :
    w'.memory (.inner id) = w.memory (.inner id) := by
  induction n generalizing i w with
  | zero =>
    cases h
    rfl
  | succ n ih =>
    unfold copyOutputs at h
    split at h
    · exact ih h
    · rename_i x t _
      split at h
      · cases hcopy : copyOutput w x t with
        | mk ret₁ w₁ =>
          rw [hcopy] at h
          by_cases hret : ret₁ = .success
          · subst hret
            rw [ih h, copyOutput_memory hcopy]
          · have heq : (ret₁, w₁) = (ret, w') := by
              cases ret₁ with
              | success => exact absurd rfl hret
              | _ => exact h
            cases heq
            exact copyOutput_memory hcopy id
      · exact ih h

theorem SameBuffers.inputTensors (h : SameBuffers e e') : e'.inputTensors = e.inputTensors := by
  rw [h.rest]

/-- **A run** leaves what was set for the inputs as it is. -/
theorem run_delivers (hs : Tracked (e, w)) (hd : Delivers (e, w) m) {env : ExecutorEnv}
    (h : e.run w env = .ok (ret, e', w')) : Delivers (e', w') m := by
  cases run_ran h with
  | refused => exact hd
  | failed hinputs houtputs =>
    exact hd.frame rfl fun i id hid => deviceRun_memory hs houtputs hid
  | dims hinputs houtputs hdims =>
    obtain ⟨hsame, hw'⟩ := setOutputDims_sameBuffers (aligned_of_tensorsOf houtputs) hdims
    refine hd.frame hsame.inputTensors fun i id hid => ?_
    rw [hw', ← deviceRun_memory hs houtputs hid]
  | copied hdescs hinputs houtputs hcode hlength hdims hcopy =>
    obtain ⟨hsame, hw₁⟩ := setOutputDims_sameBuffers (aligned_of_tensorsOf houtputs) hdims
    refine hd.frame hsame.inputTensors fun i id hid => ?_
    rw [copyOutputs_memory hcopy, hw₁, ← deviceRun_memory hs houtputs hid]

/-- The calls that set an input. -/
def SetsInput : ExecutorCall → Prop
  | .setInput .. | .setInputFromMemory .. => True
  | _ => False

theorem track_failed {s : NNExecutor × World} {call : ExecutorEnv × ExecutorCall}
    (h : call.2.perform s.1 s.2 call.1 = .ok (ret, e', w')) (hret : ret ≠ .success) :
    track m s call = m := by
  unfold track
  rw [h]
  cases ret with
  | success => exact absurd rfl hret
  | _ => rfl

theorem track_other {s : NNExecutor × World} {env : ExecutorEnv} {call : ExecutorCall}
    (hcall : ¬ SetsInput call) : track m s (env, call) = m := by
  unfold track
  split
  · cases call with
    | setInput => exact absurd trivial hcall
    | setInputFromMemory => exact absurd trivial hcall
    | _ => rfl
  · rfl

/-- **Every call** keeps every entry holding what its last setter was given. -/
theorem track_delivers (hs : Tracked (e, w)) (hd : Delivers (e, w) m) {env : ExecutorEnv}
    {call : ExecutorCall} (hcall : HasBuffer call)
    (h : call.perform e w env = .ok (ret, e', w')) :
    Delivers (e', w') (track m (e, w) (env, call)) := by
  cases call with
  | setInput index nnTensor buffer length =>
    obtain ⟨data, rfl, hdata⟩ := hcall
    obtain ⟨hfailed, hset⟩ := (setInput_inputSet h).delivers hs hd hdata
    by_cases hret : ret = .success
    · subst hret
      have htrack : track m (e, w) (env, .setInput index nnTensor (some data) length)
          = Function.update m index (e.given w index nnTensor (.copied data)) := by
        unfold track
        rw [show ExecutorCall.perform e w env (.setInput index nnTensor (some data) length)
          = _ from h]
        rfl
      rw [htrack]
      exact hset rfl
    · rw [track_failed h hret]
      exact hfailed hret
  | setInputFromMemory index nnTensor memory =>
    obtain ⟨hfailed, hset⟩ := (setInputFromMemory_inputMemorySet h).delivers hd
    by_cases hret : ret = .success
    · subst hret
      have htrack : track m (e, w) (env, .setInputFromMemory index nnTensor memory)
          = Function.update m index (e.given w index nnTensor (.handed memory)) := by
        unfold track
        rw [show ExecutorCall.perform e w env (.setInputFromMemory index nnTensor memory)
          = _ from h]
      rw [htrack]
      exact hset rfl
    · rw [track_failed h hret]
      exact hfailed hret
  | setOutput =>
    obtain ⟨hinputs, hmemory⟩ := (setOutput_outputSet h).frame
    rw [track_other id]
    exact hd.frame hinputs fun i id _ => by rw [hmemory]
  | setOutputFromMemory =>
    obtain ⟨hinputs, hmemory⟩ := (setOutputFromMemory_outputMemorySet h).frame
    rw [track_other id]
    exact hd.frame hinputs fun i id _ => by rw [hmemory]
  | run =>
    rw [track_other id]
    exact run_delivers hs hd h
  -- All other calls leave the inputs and the memory of the device alone.
  | _ =>
    have hquiet : Quiet (e, w) (e', w') := perform_quiet id h
    have hmemory : w'.memory = w.memory := hquiet.memory
    rw [track_other id]
    exact hd.frame hquiet.inputTensors fun i id _ => by rw [hmemory]

end Calls

/-! ## Whole runs -/

/-- The device is given what the last setter of an input was given. -/
def Given (s : NNExecutor × World) (m : Nat → Option Delivered) (index : Nat) (io : IOTensor) :
    Prop :=
  ∃ d t, m index = some d ∧ (s.1.inputTensors.lookup index).bind ExeTensor.tensor = some t ∧
    d.dataType = some io.dataType ∧ io.dimensions = d.dimensions ∧ io.format = d.format ∧
    io.name = d.name ∧ t.dataLength ≤ io.length ∧
    d.source.At s.2 t.dataLength io.data io.length

section Runs

variable {s s' : NNExecutor × World} {m m' : Nat → Option Delivered}

theorem trackedStep_eq_ok {call : ExecutorEnv × ExecutorCall}
    (h : trackedStep (s, m) call = .ok (s', m')) :
    (∃ ret, call.2.perform s.1 s.2 call.1 = .ok (ret, s')) ∧ step s call = .ok s' ∧
      m' = track m s call := by
  unfold trackedStep at h
  cases hstep : step s call with
  | error fault =>
    rw [hstep] at h
    cases h
  | ok s₁ =>
    rw [hstep] at h
    cases h
    exact ⟨step_eq_ok hstep, rfl, rfl⟩

/-- After any calls every entry holds what its last setter was given. -/
theorem exec_delivers {c : NNCompiler Nat} {e : NNExecutor} {w : World}
    {calls : List (ExecutorEnv × ExecutorCall)} (hcreate : c.createExecutor true = some e)
    (hnumbered : Numbered w.log) (hclean : Ledger.Clean w.log)
    (hcalls : ∀ call ∈ calls, HasBuffer call.2)
    (hexec : Run.exec trackedStep ((e, w), fun _ => none) calls = .ok (s', m)) :
    Tracked s' ∧ Delivers s' m := by
  refine Run.exec_invariant_of_meets (P := fun s => Tracked s.1 ∧ Delivers s.1 s.2)
    (fun s call t hs hcall h => ?_) ⟨(tracked_create hcreate hnumbered hclean).1, ?_⟩
    (Run.meets_of_forall _ hcalls) hexec
  · have hok : trackedStep (s.1, s.2) call = .ok (t.1, t.2) := h
    obtain ⟨⟨ret, hperform⟩, hstep, hm⟩ := trackedStep_eq_ok hok
    refine ⟨tracked_step hs.1 hstep, ?_⟩
    rw [hm]
    exact track_delivers hs.1 hs.2 hcall hperform
  · obtain ⟨preparedModel, -, rfl⟩ := NNCompiler.createExecutor_eq_some hcreate
    exact ⟨fun _ _ => rfl, fun _ _ hx => by cases hx⟩

/-- A run that asks the device gives it the tensors of the entries. -/
theorem Ran.inputs {e e' : NNExecutor} {w w' : World} {env : ExecutorEnv} {ret : ReturnCode}
    {inputs outputs : List IOTensor} (h : Ran e w env ret e' w')
    (hasked : w'.runs = w.runs ++ [.ioTensors inputs outputs]) :
    ∃ ts, tensorsOf e.inputTensors e.inputTensors.entries.length = some ts ∧
      inputs = ts.map NNTensor.convertToIOTensor := by
  have hgiven : ∀ {ts us : List (NNTensor Address)},
      (deviceRun w env.run ts us).runs = w.runs ++ [.ioTensors inputs outputs] →
        inputs = ts.map NNTensor.convertToIOTensor := by
    intro ts us hruns
    have heq := List.append_cancel_left (hruns : w.runs ++ _ = _)
    cases heq
    rfl
  cases h with
  | refused => simp at hasked
  | failed hinputs houtputs => exact ⟨_, hinputs, hgiven hasked⟩
  | dims hinputs houtputs hdims =>
    obtain ⟨-, hw'⟩ := setOutputDims_sameBuffers (aligned_of_tensorsOf houtputs) hdims
    rw [hw'] at hasked
    exact ⟨_, hinputs, hgiven hasked⟩
  | copied hdescs hinputs houtputs hcode hlength hdims hcopy =>
    obtain ⟨-, hw₁⟩ := setOutputDims_sameBuffers (aligned_of_tensorsOf houtputs) hdims
    rw [(copyOutputs_frame hcopy).1, hw₁] at hasked
    exact ⟨_, hinputs, hgiven hasked⟩

/-- **Input delivery**: after any calls, a run gives the device what the last
successful setter of every input was given iff the names of the inputs are
empty. -/
theorem delivered_iff {c : NNCompiler Nat} {e e' : NNExecutor} {w w' : World}
    {calls : List (ExecutorEnv × ExecutorCall)} {env : ExecutorEnv} {ret : ReturnCode}
    {inputs outputs : List IOTensor} (hcreate : c.createExecutor true = some e)
    (hnumbered : Numbered w.log) (hclean : Ledger.Clean w.log)
    (hcalls : ∀ call ∈ calls, HasBuffer call.2)
    (hexec : Run.exec trackedStep ((e, w), fun _ => none) calls = .ok (s', m))
    (hrun : s'.1.run s'.2 env = .ok (ret, e', w'))
    (hasked : w'.runs = s'.2.runs ++ [.ioTensors inputs outputs]) :
    (∀ index io, inputs[index]? = some io → Given s' m index io) ↔
      ∀ index d, index < inputs.length → m index = some d → d.name = [] := by
  obtain ⟨-, hdelivers⟩ := exec_delivers hcreate hnumbered hclean hcalls hexec
  obtain ⟨ts, hts, rfl⟩ := (run_ran hrun).inputs hasked
  have hentry : ∀ (index : Nat) t, ts[index]? = some t →
      ∃ x d, s'.1.inputTensors.lookup index = some x ∧ m index = some d ∧ Carries s'.2 x t d := by
    intro index t ht
    obtain ⟨x, hx, htensor⟩ := tensorsOf_getElem? hts ht
    obtain ⟨d, t', hm, hc⟩ := hdelivers.set index x hx
    have heq : t' = t := Option.some.inj (hc.tensor.symm.trans htensor)
    subst heq
    exact ⟨x, d, hx, hm, hc⟩
  constructor
  · -- The name that the device gets is the empty one of the entry.
    intro hgiven index d hindex hm
    rw [List.length_map] at hindex
    have ht : ts[index]? = some ts[index] := List.getElem?_eq_getElem hindex
    obtain ⟨d', t, hm', -, -, -, -, hname, -⟩ := hgiven index ts[index].convertToIOTensor (by
      rw [List.getElem?_map, ht]
      rfl)
    rw [hm] at hm'
    cases hm'
    exact hname.symm
  · intro hnames index io hio
    rw [List.getElem?_map] at hio
    obtain ⟨t, ht, rfl⟩ := Option.map_eq_some_iff.mp hio
    obtain ⟨x, d, hx, hm, hc⟩ := hentry index t ht
    have hlt : index < ts.length := (List.getElem?_eq_some_iff.mp ht).1
    have hname := hnames index d (by rw [List.length_map]; exact hlt) hm
    refine ⟨d, t, hm, ?_, hc.dataType, hc.dimensions, hc.format, hname.symm, hc.length, hc.source⟩
    rw [hx]
    exact hc.tensor

/-- The input and the output are set. -/
def setBoth : List (ExecutorEnv × ExecutorCall) :=
  [({}, .setInput 0 { dataType := some .float32, dimensions := .array [2] }
      (some [1, 2, 3, 4, 5, 6, 7, 8]) 8),
    ({}, .setOutput 0 (some 0) 8)]

/-- The device runs and reports the shape of the output. -/
def reportedRun : ExecutorEnv where
  run := { outputsDims := [[2]] }

/-- An input without a name, and what the theorem says of it. -/
theorem delivered_iff_unnamed : ∃ s' m ret e' w' inputs outputs,
    Run.exec trackedStep ((NNExecutor.create ((smallCompiler [2]).share {}).1
      ⟨0, (.success, []), .success⟩, ((smallCompiler [2]).share {}).2), fun _ => none) setBoth
      = .ok (s', m) ∧
    s'.1.run s'.2 reportedRun = .ok (ret, e', w') ∧
    w'.runs = s'.2.runs ++ [.ioTensors inputs outputs] ∧
    ((∀ index io, inputs[index]? = some io → Given s' m index io) ↔
      ∀ index d, index < inputs.length → m index = some d → d.name = []) := by
  obtain ⟨s', m, hexec, ret, e', w', hrun, inputs, outputs, hasked⟩ : ∃ s' m,
      Run.exec trackedStep ((NNExecutor.create ((smallCompiler [2]).share {}).1
        ⟨0, (.success, []), .success⟩, ((smallCompiler [2]).share {}).2), fun _ => none) setBoth
        = .ok (s', m) ∧ ∃ ret e' w', s'.1.run s'.2 reportedRun = .ok (ret, e', w') ∧
        ∃ inputs outputs, w'.runs = s'.2.runs ++ [.ioTensors inputs outputs] :=
    ⟨_, _, rfl, _, _, _, rfl, _, _, rfl⟩
  refine ⟨s', m, ret, e', w', inputs, outputs, hexec, hrun, hasked, ?_⟩
  exact delivered_iff (c := ((smallCompiler [2]).share {}).1) rfl numbered_nil Ledger.clean_nil
    (by simp [setBoth, HasBuffer]) hexec hrun hasked

/-- The compiled model with a name for its input. -/
def namedCompiler : NNCompiler TensorDesc :=
  { smallCompiler [2] with
    inputTensorDescs :=
      [({ TensorDesc.floats 2 with name := ⟨[120], by decide⟩ },
        TensorType.tensor.code)] }

/-- **The name** of an input does not come to the device. -/
theorem namedCompiler_not_given : ∃ e s' m ret e' w' inputs outputs,
    (namedCompiler.share {}).1.createExecutor true = some e ∧
    Run.exec trackedStep ((e, (namedCompiler.share {}).2), fun _ => none) setBoth = .ok (s', m) ∧
    s'.1.run s'.2 reportedRun = .ok (ret, e', w') ∧
    w'.runs = s'.2.runs ++ [.ioTensors inputs outputs] ∧
    ¬ ∀ index io, inputs[index]? = some io → Given s' m index io := by
  refine ⟨_, _, _, _, _, _, _, _, rfl, rfl, rfl, rfl, fun hgiven => ?_⟩
  obtain ⟨d, t, hm, -, -, -, -, hname, -⟩ := hgiven 0 _ rfl
  cases hm
  cases hname

end Runs

end NNExecutor

end NNRt
