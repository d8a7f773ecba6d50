import NNRt.Executor.Effects

/-!
# Device buffers of an executor

Who owns the buffers an executor has the device allocate. The places of the
ledger are the entries for inputs and outputs; a buffer that is not stored yet
is in the hand of the call.

- `Marked`: an entry is marked as inner memory iff it names a device buffer.
- `perform_tracks`: every call but one that abandons a buffer is a sequence of
  ledger steps.
- `owned_iff`: **after a run and the destructor the ledger is clean, and the
  marked entries hold live buffers of their own, iff no call of the run abandons
  a buffer.**
-/

namespace NNRt

/-- Where an executor keeps a device buffer. -/
inductive Place
  | input (index : Nat)
  | output (index : Nat)
  | hand
  deriving DecidableEq, Repr

/-- The number of a buffer the device allocated. -/
def Address.inner? : Option Address → Option Nat
  | some (.inner id) => some id
  | _ => none

/-- The device buffer an entry names. -/
def ExeTensor.innerBuffer (x : ExeTensor) : Option Nat :=
  Address.inner? (x.tensor.bind NNTensor.buffer)

/-- An entry is marked as inner memory iff it names a device buffer. -/
def ExeTensor.Marked (x : ExeTensor) : Prop :=
  x.isInnerMem = x.innerBuffer.isSome

theorem ExeTensor.Marked.innerBuffer_eq_none {x : ExeTensor} (hx : x.Marked)
    (hinner : x.isInnerMem = false) : x.innerBuffer = none := by
  rw [ExeTensor.Marked, hinner] at hx
  rw [← Option.not_isSome_iff_eq_none, ← hx]
  exact Bool.false_ne_true

theorem ExeTensor.Marked.innerBuffer_eq_some {x : ExeTensor} (hx : x.Marked)
    (hinner : x.isInnerMem = true) : ∃ id, x.innerBuffer = some id := by
  rw [ExeTensor.Marked, hinner] at hx
  exact Option.isSome_iff_exists.mp hx.symm

theorem World.inners_singleton (address : Option Address) :
    World.inners [address] = (Address.inner? address).toList := by
  rcases address with _ | id | address
  · rfl
  · rfl
  · rfl

/-- A buffer's number is its place in the log, so no later buffer has it. -/
def Numbered (log : Ledger.Log) : Prop :=
  ∀ id, .acquire id ∈ log → id < log.length

theorem numbered_nil : Numbered [] := by
  intro id hid
  cases hid

namespace Numbered

variable {log : Ledger.Log}

theorem append {events : Ledger.Log} (h : Numbered log)
    (hevents : ∀ id, .acquire id ∉ events) : Numbered (log ++ events) := by
  intro id hid
  rcases List.mem_append.mp hid with hid | hid
  · have hlt := h id hid
    rw [List.length_append]
    omega
  · exact absurd hid (hevents id)

theorem use (h : Numbered log) (ids : List Nat) : Numbered (log ++ ids.map .use) := by
  refine h.append fun id hid => ?_
  obtain ⟨_, -, heq⟩ := List.mem_map.mp hid
  cases heq

theorem release (h : Numbered log) (ids : List Nat) : Numbered (log ++ ids.map .release) := by
  refine h.append fun id hid => ?_
  obtain ⟨_, -, heq⟩ := List.mem_map.mp hid
  cases heq

theorem acquire (h : Numbered log) : Numbered (log ++ [.acquire log.length]) := by
  intro id hid
  rw [List.length_append, List.length_singleton]
  rcases List.mem_append.mp hid with hid | hid
  · have hlt := h id hid
    omega
  · have heq : id = log.length := by simpa using hid
    omega

theorem fresh (h : Numbered log) : .acquire log.length ∉ log := by
  intro hmem
  exact lt_irrefl _ (h _ hmem)

end Numbered

namespace NNExecutor

/-- The device buffer at a place. -/
def holds (e : NNExecutor) : Place → Option Nat
  | .input index => (e.inputTensors.lookup index).bind ExeTensor.innerBuffer
  | .output index => (e.outputTensors.lookup index).bind ExeTensor.innerBuffer
  | .hand => none

/-- The ledger of an executor and its world. -/
def ledger (s : NNExecutor × World) : Ledger.State Place :=
  ⟨s.1.holds, s.2.log⟩

/-- Every entry is marked as it should be. -/
structure Marked (e : NNExecutor) : Prop where
  input : ∀ index x, e.inputTensors.lookup index = some x → x.Marked
  output : ∀ index x, e.outputTensors.lookup index = some x → x.Marked

/-! ## Entries -/

section Entries

variable {e : NNExecutor} {x : ExeTensor} {index : Nat}

theorem holds_putInput (e : NNExecutor) (index : Nat) (x : ExeTensor) :
    (e.putInput index x).holds = Function.update e.holds (.input index) x.innerBuffer := by
  funext p
  cases p with
  | input i =>
    by_cases hi : i = index
    · subst hi
      rw [Function.update_self]
      rw [holds, inputTensors_putInput, AList.lookup_insert]
      rfl
    · rw [Function.update_of_ne (by simpa using hi)]
      rw [holds, inputTensors_putInput, AList.lookup_insert_ne hi]
      rfl
  | output i => exact (Function.update_of_ne (by simp) _ _).symm
  | hand => exact (Function.update_of_ne (by simp) _ _).symm

theorem holds_putOutput (e : NNExecutor) (index : Nat) (x : ExeTensor) :
    (e.putOutput index x).holds = Function.update e.holds (.output index) x.innerBuffer := by
  funext p
  cases p with
  | output i =>
    by_cases hi : i = index
    · subst hi
      rw [Function.update_self]
      rw [holds, outputTensors_putOutput, AList.lookup_insert]
      rfl
    · rw [Function.update_of_ne (by simpa using hi)]
      rw [holds, outputTensors_putOutput, AList.lookup_insert_ne hi]
      rfl
  | input i => exact (Function.update_of_ne (by simp) _ _).symm
  | hand => exact (Function.update_of_ne (by simp) _ _).symm

theorem Marked.putInput (he : e.Marked) (hx : x.Marked) : (e.putInput index x).Marked where
  output := he.output
  input i y hy := by
    by_cases hi : i = index
    · subst hi
      rw [inputTensors_putInput, AList.lookup_insert] at hy
      cases hy
      exact hx
    · rw [inputTensors_putInput, AList.lookup_insert_ne hi] at hy
      exact he.input i y hy

theorem Marked.putOutput (he : e.Marked) (hx : x.Marked) : (e.putOutput index x).Marked where
  input := he.input
  output i y hy := by
    by_cases hi : i = index
    · subst hi
      rw [outputTensors_putOutput, AList.lookup_insert] at hy
      cases hy
      exact hx
    · rw [outputTensors_putOutput, AList.lookup_insert_ne hi] at hy
      exact he.output i y hy


end Entries

/-! ## The log -/

section Log

variable {w : World}

theorem log_write (address : Option Address) (data : Bytes) :
    (w.write address data).log = w.log ++ (Address.inner? address).toList.map .use := by
  cases address with
  | none => exact (List.append_nil _).symm
  | some address =>
    rw [← World.inners_singleton]
    rfl

/-- Copying to a buffer uses it or does not get that far. -/
theorem log_memcpy (dest : Option Address) (count : Nat) (src : Option Bytes) :
    ∃ ids : List Nat, (∀ id ∈ ids, Address.inner? dest = some id) ∧
      (w.memcpy dest count src).2.log = w.log ++ ids.map .use := by
  have hwrite : ∀ data, ∃ ids : List Nat, (∀ id ∈ ids, Address.inner? dest = some id) ∧
      (w.write dest data).log = w.log ++ ids.map .use := by
    intro data
    exact ⟨_, fun id hid => Option.mem_toList.mp hid, log_write dest data⟩
  unfold World.memcpy
  split
  · exact ⟨[], nofun, (List.append_nil _).symm⟩
  cases src with
  | none => exact hwrite _
  | some data => exact hwrite _

/-- Releasing the buffer of an entry that is marked as inner memory. -/
theorem log_release {x : ExeTensor} {t : NNTensor Address} (hx : x.Marked)
    (ht : x.tensor = some t) :
    (if x.isInnerMem then w.releaseBuffer t.buffer else w).log
      = w.log ++ x.innerBuffer.toList.map .release := by
  have hbuffer : x.innerBuffer = Address.inner? t.buffer := by
    rw [ExeTensor.innerBuffer, ht]
    rfl
  cases hinner : x.isInnerMem with
  | false =>
    rw [hx.innerBuffer_eq_none hinner]
    exact (List.append_nil _).symm
  | true =>
    rw [hbuffer, ← World.inners_singleton]
    rfl

end Log

/-! ## Calls that keep track of the buffers -/

/-- A call is a sequence of ledger steps. -/
structure Tracks (s s' : NNExecutor × World) : Prop where
  steps : Ledger.Steps (ledger s) (ledger s')
  marked : s'.1.Marked
  numbered : Numbered s'.2.log

section Inputs

variable {e e' : NNExecutor} {w w' : World} {ret : ReturnCode} {index : Nat}

theorem Tracks.of_steps {s : NNExecutor × World} {own : Place → Option Nat} {log : Ledger.Log}
    (hsteps : Ledger.Steps (ledger s) ⟨own, log⟩) (hown : e'.holds = own) (hlog : w'.log = log)
    (he' : e'.Marked) (hw' : Numbered log) : Tracks s (e', w') := by
  subst hown hlog
  exact ⟨hsteps, he', hw'⟩

theorem Tracks.refl (he : e.Marked) (hw : Numbered w.log) : Tracks (e, w) (e, w) :=
  ⟨.refl, he, hw⟩

theorem setInputTensorWithCurrentBuffer_tracks (he : e.Marked) (hw : Numbered w.log)
    {inputTensor : NNTensor Address} {buffer : Option Bytes} {dataLength curBufferLength : Nat}
    (h : e.setInputTensorWithCurrentBuffer w index inputTensor buffer dataLength curBufferLength
      = .ok (ret, e', w')) :
    Tracks (e, w) (e', w') := by
  unfold setInputTensorWithCurrentBuffer at h
  dsimp only at h
  cases hx : e.inputTensors.lookup index with
  | none =>
    rw [hx] at h
    cases h
  | some x =>
    rw [hx] at h
    dsimp only [Option.getD_some] at h
    cases ht : x.tensor with
    | none =>
      rw [ht] at h
      cases h
    | some t =>
      rw [ht] at h
      dsimp only at h
      have hheld : e.holds (.input index) = Address.inner? t.buffer := by
        rw [holds, hx]
        show ExeTensor.innerBuffer x = _
        rw [ExeTensor.innerBuffer, ht]
        rfl
      obtain ⟨ids, hids, hlog⟩ := log_memcpy (w := w) t.buffer dataLength buffer
      -- The entry names the buffer that the copy writes to, if it writes at all.
      have hsteps := Ledger.steps_use (ledger (e, w)) ids fun id hid =>
        ⟨Place.input index, hheld.trans (hids id hid)⟩
      have hnumbered := hw.use ids
      cases hcopy : w.memcpy t.buffer dataLength buffer with
      | mk copied w₁ =>
        rw [hcopy] at h hlog
        cases copied with
        | false =>
          cases h
          exact .of_steps hsteps rfl hlog he hnumbered
        | true =>
          cases h
          have hsame : ExeTensor.innerBuffer
              { x with tensor := some (inputTensor.setBuffer t.buffer curBufferLength) }
              = e.holds (.input index) := hheld.symm
          refine .of_steps hsteps ?_ hlog (he.putInput ?_) hnumbered
          · rw [holds_putInput, hsame, Function.update_eq_self]
            rfl
          · have hmarked := he.input index x hx
            rw [ExeTensor.Marked, ExeTensor.innerBuffer, ht] at hmarked
            exact hmarked

/-- The buffer that is replaced is released, and the entry names the new one. -/
theorem setInputTensorWithNewBuffer_eq (he : e.Marked) {inputTensor : NNTensor Address}
    {inputBuffer : Address} {length : Nat} {isInnerMem : Bool}
    (h : e.setInputTensorWithNewBuffer w index inputTensor inputBuffer length isInnerMem
      = .ok (ret, e', w')) :
    e' = e.putInput index
        { tensor := some (inputTensor.setBuffer (some inputBuffer) length)
          isInnerMem := isInnerMem } ∧
      w'.log = w.log ++ (e.holds (.input index)).toList.map .release := by
  unfold setInputTensorWithNewBuffer at h
  dsimp only at h
  cases hx : e.inputTensors.lookup index with
  | none =>
    rw [hx] at h
    cases h
    rw [holds, hx]
    exact ⟨rfl, (List.append_nil _).symm⟩
  | some x =>
    rw [hx] at h
    dsimp only at h
    cases ht : x.tensor with
    | none =>
      rw [ht] at h
      cases h
    | some t =>
      rw [ht] at h
      cases h
      rw [holds, hx]
      exact ⟨rfl, log_release (he.input index x hx) ht⟩

theorem storeInput_tracks (he : e.Marked) (hw : Numbered w.log) {env : ExecutorEnv}
    {inputTensor : NNTensor Address} {buffer : Option Bytes} {length : Nat}
    (h : e.storeInput w env index inputTensor buffer length = .ok (ret, e', w')) :
    Tracks (e, w) (e', w') := by
  unfold storeInput at h
  dsimp only at h
  split at h
  · exact setInputTensorWithCurrentBuffer_tracks he hw h
  split at h
  · cases h
    exact Tracks.refl he hw
  obtain ⟨ids, hids, hlog⟩ := log_memcpy (w := w.allocateBuffer) (some (.inner w.nextBuffer))
    inputTensor.dataLength buffer
  have hids' : ∀ id ∈ ids, id = w.nextBuffer := by
    intro id hid
    exact (Option.some.inj (hids id hid)).symm
  split at h
  · rename_i w₁ hcopy
    rw [hcopy] at hlog
    cases h
    have hreleased : (w₁.releaseBuffer (some (.inner w.nextBuffer))).log
        = w.log ++ [.acquire w.nextBuffer] ++ ids.map .use ++ [.release w.nextBuffer] := by
      rw [World.releaseBuffer, hlog]
      rfl
    exact .of_steps (@Ledger.steps_discard _ _ _ _ _ Place.hand rfl hw.fresh ids hids') rfl hreleased
      he ((hw.acquire.use ids).release [_])
  · rename_i w₁ hcopy
    rw [hcopy] at hlog
    obtain ⟨rfl, hlog'⟩ := setInputTensorWithNewBuffer_eq he h
    rw [hlog] at hlog'
    have hsteps : Ledger.Steps (ledger (e, w)) _ :=
      @Ledger.steps_replace _ _ (.input index) _ _ _ .hand (by simp) rfl hw.fresh ids hids'
    exact .of_steps hsteps (holds_putInput _ _ _) hlog' (he.putInput rfl)
      ((hw.acquire.use ids).release _)

theorem setInput_tracks (he : e.Marked) (hw : Numbered w.log) {env : ExecutorEnv}
    {nnTensor : OHNNTensor} {buffer : Option Bytes} {length : Nat}
    (h : e.setInput w env index nnTensor buffer length = .ok (ret, e', w')) :
    Tracks (e, w) (e', w') := by
  unfold setInput at h
  split at h
  · cases h
  split at h
  · cases h
    exact Tracks.refl he hw
  split at h
  · cases h
    exact Tracks.refl he hw
  split at h
  · split at h
    · cases h
      exact Tracks.refl he hw
    · exact storeInput_tracks he hw h
  · cases h
    exact Tracks.refl he hw

theorem setInputFromMemory_tracks (he : e.Marked) (hw : Numbered w.log) {env : ExecutorEnv}
    {nnTensor : OHNNTensor} {memory : OHNNMemory}
    (h : e.setInputFromMemory w env index nnTensor memory = .ok (ret, e', w')) :
    Tracks (e, w) (e', w') := by
  unfold setInputFromMemory at h
  split at h
  · cases h
  split at h
  · cases h
    exact Tracks.refl he hw
  split at h
  · cases h
    exact Tracks.refl he hw
  split at h
  · split at h
    · cases h
      exact Tracks.refl he hw
    · obtain ⟨rfl, hlog⟩ := setInputTensorWithNewBuffer_eq he h
      exact .of_steps (Ledger.steps_clear (ledger (e, w)) (.input index))
        (holds_putInput _ _ _) hlog (he.putInput rfl) (hw.release _)
  · cases h
    exact Tracks.refl he hw

end Inputs

section Outputs

variable {e e' : NNExecutor} {w w' : World} {ret : ReturnCode} {index : Nat} {env : ExecutorEnv}

theorem setOutputBuffer_eq {x : ExeTensor} {buffer : Option Nat} {length : Nat}
    (h : e.setOutputBuffer w env index x buffer length = .ok (ret, e', w')) :
    env.allocate = false ∧ e' = e ∧ w' = w ∨
      env.allocate = true ∧ w' = w.allocateBuffer ∧ ∃ t, x.tensor = some t ∧
        e' = e.putOutput index
          { tensor := some (t.setBuffer (some (.inner w.nextBuffer)) length)
            userBuffer := buffer
            userBufferLength := length
            isInnerMem := true } := by
  unfold setOutputBuffer at h
  cases hallocate : env.allocate with
  | false =>
    rw [hallocate] at h
    cases h
    exact Or.inl ⟨rfl, rfl, rfl⟩
  | true =>
    rw [hallocate] at h
    cases ht : x.tensor with
    | none =>
      rw [ht] at h
      cases h
    | some t =>
      rw [ht] at h
      cases h
      exact Or.inr ⟨rfl, rfl, t, rfl, rfl⟩

/-- A new buffer for an output that has none, after a log. -/
theorem setOutputBuffer_tracks {s : NNExecutor × World} {own : Place → Option Nat} {x : ExeTensor}
    {buffer : Option Nat} {length : Nat} (he : e.Marked) (hw : Numbered w.log)
    (hsteps : Ledger.Steps (ledger s) ⟨own, w.log⟩) (hfree : own (.output index) = none)
    (hown : ∀ p, p ≠ .output index → own p = e.holds p)
    (hkeeps : env.allocate = false → own = e.holds)
    (h : e.setOutputBuffer w env index x buffer length = .ok (ret, e', w')) :
    Tracks s (e', w') := by
  rcases setOutputBuffer_eq h with ⟨hallocate, rfl, rfl⟩ | ⟨-, rfl, t, -, rfl⟩
  · exact .of_steps hsteps (hkeeps hallocate).symm rfl he hw
  · have hacquire : Ledger.Step ⟨own, w.log⟩
        ⟨Function.update own (.output index) (some w.nextBuffer),
          w.log ++ [.acquire w.nextBuffer]⟩ :=
      .acquire _ _ hfree hw.fresh
    refine .of_steps (hsteps.tail hacquire) ?_ rfl (he.putOutput rfl) hw.acquire
    rw [holds_putOutput]
    funext p
    by_cases hp : p = .output index
    · rw [hp, Function.update_self, Function.update_self]
      rfl
    · rw [Function.update_of_ne hp, Function.update_of_ne hp, hown p hp]

/-- `SetOutput` finds the device buffer of the output too small, and the device
allocates no other. -/
def Abandons (s : NNExecutor × World) (call : ExecutorEnv × ExecutorCall) : Prop :=
  match call.2 with
  | .setOutput index _ length =>
    call.1.allocate = false ∧ s.1.OutputChecked s.2 index length ∧
      ∃ x t, s.1.outputTensors.lookup index = some x ∧ x.isInnerMem = true ∧
        x.tensor = some t ∧ t.bufferLength < length
  | _ => False

theorem holds_of_not_isInnerMem {x : ExeTensor} (he : e.Marked)
    (hx : e.outputTensors.lookup index = some x) (hinner : x.isInnerMem = false) :
    e.holds (.output index) = none := by
  rw [holds, hx]
  exact (he.output index x hx).innerBuffer_eq_none hinner

theorem buildNNTensorFromDesc_buffer {desc : TensorDesc} {type : UInt32} {t : NNTensor Address}
    (h : buildNNTensorFromDesc env desc type = some t) : t.buffer = none := by
  have hbuild := ({} : NNTensor Address).buildFromTensorDesc_buffer desc
  unfold buildNNTensorFromDesc at h
  split at h
  · cases h
  split at h
  · rename_i t₁ ht
    rw [ht] at hbuild
    dsimp only at h
    split at h
    · cases h
    · cases h
      exact hbuild
  · cases h

theorem holds_of_lookup_none (hx : e.outputTensors.lookup index = none) :
    e.holds (.output index) = none := by
  rw [holds, hx]
  rfl

/-- Nothing changes where an entry without a device buffer comes to a place without one. -/
theorem holds_putOutput_none {x : ExeTensor} (hnone : e.holds (.output index) = none)
    (hinner : x.innerBuffer = none) : (e.putOutput index x).holds = e.holds := by
  rw [holds_putOutput, hinner, ← hnone, Function.update_eq_self]

/-- The entry of a tensor that is built has no buffer yet. -/
theorem innerBuffer_built {desc : TensorDesc} {type : UInt32} {t : NNTensor Address}
    (h : buildNNTensorFromDesc env desc type = some t) :
    ExeTensor.innerBuffer { tensor := some t } = none := by
  show Address.inner? t.buffer = none
  rw [buildNNTensorFromDesc_buffer h]
  rfl

/-- A `SetOutput` whose device buffer is too small. -/
theorem setOutput_grow {x : ExeTensor} {t : NNTensor Address} {buffer : Option Nat} {length : Nat}
    (he : e.Marked) (hw : Numbered w.log) (hx : e.outputTensors.lookup index = some x)
    (hinner : x.isInnerMem = true) (ht : x.tensor = some t)
    (h : e.setOutputBuffer (w.releaseBuffer t.buffer) env index x buffer length
      = .ok (ret, e', w')) :
    (env.allocate = true → Tracks (e, w) (e', w')) ∧
      (env.allocate = false →
        Ledger.Abandons (ledger (e, w)) (ledger (e', w')) ∧ e'.Marked ∧ Numbered w'.log) := by
  obtain ⟨id, hid⟩ := (he.output index x hx).innerBuffer_eq_some hinner
  have hheld : e.holds (.output index) = some id := by
    rw [holds, hx]
    exact hid
  have hlog : (w.releaseBuffer t.buffer).log = w.log ++ [.release id] := by
    have hrelease := log_release (w := w) (he.output index x hx) ht
    rw [if_pos hinner, hid] at hrelease
    exact hrelease
  have hnumbered : Numbered (w.log ++ [.release id]) := hw.release [id]
  constructor
  · intro hallocate
    have hrelease : Ledger.Step (ledger (e, w))
        ⟨Function.update e.holds (.output index) none, w.log ++ [.release id]⟩ :=
      .release _ _ hheld
    rw [← hlog] at hrelease hnumbered
    refine setOutputBuffer_tracks he hnumbered (.single hrelease) (Function.update_self ..)
      (fun p hp => Function.update_of_ne hp _ _) (fun hfalse => ?_) h
    rw [hallocate] at hfalse
    cases hfalse
  · intro hallocate
    rcases setOutputBuffer_eq h with ⟨-, rfl, rfl⟩ | ⟨htrue, -⟩
    · refine ⟨⟨.output index, id, hheld, ?_⟩, he, ?_⟩
      · rw [ledger, hlog]
        rfl
      · rw [hlog]
        exact hnumbered
    · rw [hallocate] at htrue
      cases htrue

/-- **`SetOutput`** keeps track of the buffers or abandons one. -/
theorem setOutput_tracks (he : e.Marked) (hw : Numbered w.log) {buffer : Option Nat} {length : Nat}
    (h : e.setOutput w env index buffer length = .ok (ret, e', w')) :
    (¬ Abandons (e, w) (env, .setOutput index buffer length) → Tracks (e, w) (e', w')) ∧
      (Abandons (e, w) (env, .setOutput index buffer length) →
        Ledger.Abandons (ledger (e, w)) (ledger (e', w')) ∧ e'.Marked ∧ Numbered w'.log) := by
  have hfound : ∀ {x}, e.outputTensors.lookup index = some x →
      Abandons (e, w) (env, .setOutput index buffer length) →
        x.isInnerMem = true ∧ ∃ t, x.tensor = some t ∧ t.bufferLength < length := by
    rintro x hx ⟨-, -, y, t, hy, hinner, ht, hlt⟩
    have hxy : y = x := Option.some.inj (hy.symm.trans hx)
    subst hxy
    exact ⟨hinner, t, ht, hlt⟩
  have hmissing : e.outputTensors.lookup index = none →
      ¬ Abandons (e, w) (env, .setOutput index buffer length) := by
    rintro hx ⟨-, -, y, t, hy, -⟩
    have hnone : none = some y := hx.symm.trans hy
    cases hnone
  cases setOutput_outputSet h with
  | refused hchecked hret =>
    refine ⟨fun _ => .refl he hw, ?_⟩
    rintro ⟨-, hchecked', -⟩
    exact absurd hchecked' hchecked
  | @reused x t hchecked hx hinner ht hlength =>
    refine ⟨fun _ => ?_, fun habandons => ?_⟩
    · have hsame : ExeTensor.innerBuffer
          { x with userBuffer := buffer, userBufferLength := length } = e.holds (.output index) := by
        rw [holds, hx]
        rfl
      refine .of_steps .refl ?_ rfl (he.putOutput (he.output index x hx)) hw
      rw [holds_putOutput, hsame, Function.update_eq_self]
    · obtain ⟨-, t', ht', hlt⟩ := hfound hx habandons
      rw [ht] at ht'
      cases ht'
      omega
  | @grown x t ret e' w' hchecked hx hinner ht hlength h =>
    -- The old buffer is released before the new one is allocated.
    obtain ⟨hkept, hlost⟩ := setOutput_grow he hw hx hinner ht h
    constructor
    · intro hnot
      apply hkept
      by_contra hallocate
      exact hnot ⟨Bool.eq_false_iff.mpr hallocate, hchecked, x, t, hx, hinner, ht, hlength⟩
    · rintro ⟨hallocate, -⟩
      exact hlost hallocate
  | @replaced x ret e' w' hchecked hx hinner h =>
    refine ⟨fun _ => ?_, fun habandons => ?_⟩
    · exact setOutputBuffer_tracks he hw .refl (holds_of_not_isInnerMem he hx hinner)
        (fun _ _ => rfl) (fun _ => rfl) h
    · rw [(hfound hx habandons).1] at hinner
      cases hinner
  | unbuilt hchecked hx =>
    refine ⟨fun _ => ?_, fun habandons => absurd habandons (hmissing hx)⟩
    exact .of_steps .refl (holds_putOutput_none (holds_of_lookup_none hx) rfl) rfl
      (he.putOutput rfl) hw
  | @built t ret e' w' ref type hchecked hx hdesc ht h =>
    refine ⟨fun _ => ?_, fun habandons => absurd habandons (hmissing hx)⟩
    have hnone := holds_of_lookup_none hx
    have hsame := holds_putOutput_none hnone (innerBuffer_built ht)
    have hmarked : ExeTensor.Marked { tensor := some t } := by
      rw [ExeTensor.Marked, innerBuffer_built ht]
      rfl
    refine setOutputBuffer_tracks (he.putOutput hmarked) hw .refl hnone (fun p _ => ?_)
      (fun _ => hsame.symm) h
    rw [hsame]

theorem setOutputFromMemory_tracks (he : e.Marked) (hw : Numbered w.log) {memory : OHNNMemory}
    (h : e.setOutputFromMemory w env index memory = .ok (ret, e', w')) :
    Tracks (e, w) (e', w') := by
  cases setOutputFromMemory_outputMemorySet h with
  | refused => exact .refl he hw
  | @replaced x t hchecked hx ht =>
    have hlog := log_release (w := w) (he.output index x hx) ht
    have hclear := Ledger.steps_clear (ledger (e, w)) (.output index)
    have hheld : e.holds (.output index) = x.innerBuffer := by
      rw [holds, hx]
      rfl
    rw [show (ledger (e, w)).own = e.holds from rfl, hheld] at hclear
    exact .of_steps hclear (holds_putOutput _ _ _) hlog (he.putOutput rfl) (hw.release _)
  | unbuilt hchecked hx =>
    exact .of_steps .refl (holds_putOutput_none (holds_of_lookup_none hx) rfl) rfl
      (he.putOutput rfl) hw
  | @built t ref type hchecked hx hdesc ht =>
    have hnone := holds_of_lookup_none hx
    have hsame := holds_putOutput_none hnone (innerBuffer_built ht)
    have hmarked : ExeTensor.Marked { tensor := some t } := by
      rw [ExeTensor.Marked, innerBuffer_built ht]
      rfl
    rw [← hsame] at hnone
    refine .of_steps .refl ?_ rfl ((he.putOutput hmarked).putOutput rfl) hw
    exact (holds_putOutput_none hnone rfl).trans hsame

end Outputs

/-! ## Runs -/

section Runs

variable {e e' : NNExecutor} {w w' : World} {ret : ReturnCode} {env : ExecutorEnv}

theorem mem_inners {id : Nat} {addresses : List (Option Address)} :
    id ∈ World.inners addresses ↔ some (.inner id) ∈ addresses := by
  induction addresses with
  | nil => simp [World.inners]
  | cons address addresses ih =>
    rcases address with _ | id' | address <;> simp [World.inners, ih]

theorem innerBuffer_eq_view (x : ExeTensor) :
    x.innerBuffer = Address.inner? (x.view.1.bind Prod.fst) := by
  rcases x with ⟨_ | t, _, _, _⟩
  · rfl
  · rfl

theorem SameBuffers.holds (h : SameBuffers e e') : e'.holds = e.holds := by
  have hbind : ∀ o : Option ExeTensor, o.bind ExeTensor.innerBuffer
      = (o.map ExeTensor.view).bind fun v => Address.inner? (v.1.bind Prod.fst) := by
    intro o
    cases o with
    | none => rfl
    | some x => exact innerBuffer_eq_view x
  funext p
  cases p with
  | input i =>
    show (e'.inputTensors.lookup i).bind _ = _
    rw [h.rest]
    rfl
  | output i =>
    show (e'.outputTensors.lookup i).bind _ = (e.outputTensors.lookup i).bind _
    rw [hbind, hbind, h.outputs i]
  | hand => rfl

theorem SameBuffers.marked (h : SameBuffers e e') (he : e.Marked) : e'.Marked where
  input i x hx := by
    rw [h.rest] at hx
    exact he.input i x hx
  output i x hx := by
    have hview := h.outputs i
    rw [hx] at hview
    cases hy : e.outputTensors.lookup i with
    | none =>
      rw [hy] at hview
      cases hview
    | some y =>
      rw [hy] at hview
      have hxy : x.view = y.view := Option.some.inj hview
      have hmarked := he.output i y hy
      rw [ExeTensor.Marked, innerBuffer_eq_view, hxy, ← innerBuffer_eq_view]
      rw [ExeTensor.Marked] at hmarked
      rw [← hmarked]
      exact congrArg (fun v => v.2.2.2) hxy

/-- The device reads and writes the buffers of the entries. -/
theorem deviceRun_steps {inputs outputs : List (NNTensor Address)}
    (hinputs : tensorsOf e.inputTensors e.inputTensors.entries.length = some inputs)
    (houtputs : tensorsOf e.outputTensors e.outputTensors.entries.length = some outputs)
    (hw : Numbered w.log) :
    Ledger.Steps (ledger (e, w)) ⟨e.holds, (deviceRun w env.run inputs outputs).log⟩ ∧
      Numbered (deviceRun w env.run inputs outputs).log := by
  refine ⟨Ledger.steps_use (ledger (e, w)) _ fun id hid => ?_, hw.use _⟩
  rw [mem_inners, List.mem_map] at hid
  obtain ⟨t, ht, hbuffer⟩ := hid
  have hinner : ∀ x : ExeTensor, x.tensor = some t → x.innerBuffer = some id := by
    intro x hx
    rw [ExeTensor.innerBuffer, hx]
    show Address.inner? t.buffer = some id
    rw [hbuffer]
    rfl
  rcases List.mem_append.mp ht with ht | ht
  · obtain ⟨k, hk⟩ := List.mem_iff_getElem?.mp ht
    obtain ⟨x, hx, htensor⟩ := tensorsOf_getElem? hinputs hk
    refine ⟨.input k, ?_⟩
    show (e.inputTensors.lookup k).bind _ = _
    rw [hx]
    exact hinner x htensor
  · obtain ⟨k, hk⟩ := List.mem_iff_getElem?.mp ht
    obtain ⟨x, hx, htensor⟩ := tensorsOf_getElem? houtputs hk
    refine ⟨.output k, ?_⟩
    show (e.outputTensors.lookup k).bind _ = _
    rw [hx]
    exact hinner x htensor

theorem copyOutput_log {x : ExeTensor} {t : NNTensor Address} (ht : x.tensor = some t)
    (h : copyOutput w x t = (ret, w')) :
    ∃ ids : List Nat, (∀ id ∈ ids, x.innerBuffer = some id) ∧
      w'.log = w.log ++ ids.map .use := by
  have hnothing : ∃ ids : List Nat, (∀ id ∈ ids, x.innerBuffer = some id) ∧
      w.log = w.log ++ ids.map .use := ⟨[], nofun, (List.append_nil _).symm⟩
  unfold copyOutput at h
  split at h
  · cases h
    exact hnothing
  split at h
  · cases h
    exact hnothing
  · rename_i deviceBuffer hbuffer
    split at h
    · cases h
      exact hnothing
    split at h
    · cases h
      exact hnothing
    · cases h
      refine ⟨World.inners [some deviceBuffer], fun id hid => ?_, ?_⟩
      · rw [mem_inners, List.mem_singleton] at hid
        rw [ExeTensor.innerBuffer, ht]
        show Address.inner? t.buffer = some id
        rw [hbuffer, ← hid]
        rfl
      · rw [log_write]
        exact List.append_nil _

/-- Copying the outputs uses the buffers of the entries. -/
theorem copyOutputs_log {i n : Nat} (h : e.copyOutputs i n w = (ret, w')) :
    ∃ ids : List Nat, (∀ id ∈ ids, ∃ p, e.holds p = some id) ∧
      w'.log = w.log ++ ids.map .use := by
  induction n generalizing i w with
  | zero =>
    cases h
    exact ⟨[], nofun, (List.append_nil _).symm⟩
  | succ n ih =>
    unfold copyOutputs at h
    split at h
    · exact ih h
    · rename_i x t hentry
      obtain ⟨y, hy, hmap⟩ := Option.bind_eq_some_iff.mp hentry
      obtain ⟨t', ht, heq⟩ := Option.map_eq_some_iff.mp hmap
      cases heq
      split at h
      · have hheld : ∀ id, x.innerBuffer = some id → ∃ p, e.holds p = some id := by
          intro id hid
          refine ⟨.output i, ?_⟩
          show (e.outputTensors.lookup i).bind _ = _
          rw [hy]
          exact hid
        cases hcopy : copyOutput w x t with
        | mk ret₁ w₁ =>
          obtain ⟨ids, hids, hlog⟩ := copyOutput_log ht hcopy
          rw [hcopy] at h
          by_cases hret : ret₁ = .success
          · subst hret
            obtain ⟨ids', hids', hlog'⟩ := ih h
            refine ⟨ids ++ ids', fun id hid => ?_, ?_⟩
            · rcases List.mem_append.mp hid with hid | hid
              · exact hheld id (hids id hid)
              · exact hids' id hid
            · rw [hlog', hlog, List.map_append, List.append_assoc]
          · -- The copy that fails is the last one.
            have heq : (ret₁, w₁) = (ret, w') := by
              cases ret₁ with
              | success => exact absurd rfl hret
              | _ => exact h
            cases heq
            exact ⟨ids, fun id hid => hheld id (hids id hid), hlog⟩
      · exact ih h

theorem run_tracks (he : e.Marked) (hw : Numbered w.log) (h : e.run w env = .ok (ret, e', w')) :
    Tracks (e, w) (e', w') := by
  cases run_ran h with
  | refused => exact .refl he hw
  | failed hinputs houtputs =>
    obtain ⟨hsteps, hnumbered⟩ := @deviceRun_steps e w env _ _ hinputs houtputs hw
    exact .of_steps hsteps rfl rfl he hnumbered
  | dims hinputs houtputs hdims =>
    obtain ⟨hsteps, hnumbered⟩ := @deviceRun_steps e w env _ _ hinputs houtputs hw
    obtain ⟨hsame, hw'⟩ := setOutputDims_sameBuffers (aligned_of_tensorsOf houtputs) hdims
    refine .of_steps hsteps hsame.holds ?_ (hsame.marked he) hnumbered
    rw [hw']
  | copied hdescs hinputs houtputs hcode hlength hdims hcopy =>
    obtain ⟨hsteps, hnumbered⟩ := @deviceRun_steps e w env _ _ hinputs houtputs hw
    obtain ⟨hsame, hw₁⟩ := setOutputDims_sameBuffers (aligned_of_tensorsOf houtputs) hdims
    obtain ⟨ids, hids, hlog⟩ := copyOutputs_log hcopy
    rw [hsame.holds] at hids
    rw [hw₁] at hlog
    exact .of_steps (hsteps.trans (Ledger.steps_use _ ids hids)) hsame.holds hlog
      (hsame.marked he) (hnumbered.use ids)

theorem Quiet.tracks (h : Quiet (e, w) (e', w')) (he : e.Marked) (hw : Numbered w.log) :
    Tracks (e, w) (e', w') := by
  have hinputs : e'.inputTensors = e.inputTensors := h.inputTensors
  have houtputs : e'.outputTensors = e.outputTensors := h.outputTensors
  refine .of_steps .refl ?_ h.log ⟨?_, ?_⟩ hw
  · funext p
    cases p with
    | input i =>
      show (e'.inputTensors.lookup i).bind _ = _
      rw [hinputs]
      rfl
    | output i =>
      show (e'.outputTensors.lookup i).bind _ = _
      rw [houtputs]
      rfl
    | hand => rfl
  · rw [hinputs]
    exact he.input
  · rw [houtputs]
    exact he.output

/-- **Every call** keeps track of the buffers or abandons one. -/
theorem perform_tracks (he : e.Marked) (hw : Numbered w.log) {call : ExecutorCall}
    (h : call.perform e w env = .ok (ret, e', w')) :
    (¬ Abandons (e, w) (env, call) → Tracks (e, w) (e', w')) ∧
      (Abandons (e, w) (env, call) →
        Ledger.Abandons (ledger (e, w)) (ledger (e', w')) ∧ e'.Marked ∧ Numbered w'.log) := by
  cases call with
  | setInput => exact ⟨fun _ => setInput_tracks he hw h, nofun⟩
  | setInputFromMemory => exact ⟨fun _ => setInputFromMemory_tracks he hw h, nofun⟩
  | setOutput => exact setOutput_tracks he hw h
  | setOutputFromMemory => exact ⟨fun _ => setOutputFromMemory_tracks he hw h, nofun⟩
  | run => exact ⟨fun _ => run_tracks he hw h, nofun⟩
  | _ => exact ⟨fun _ => (perform_quiet id h).tracks he hw, nofun⟩

end Runs

/-! ## The destructor -/

section Destroy

variable {e : NNExecutor} {w : World}

/-- One loop of the destructor releases the buffers of its entries, up to a fault. -/
theorem destroyTensors_steps {place : Nat → Place} (hplace : Function.Injective place)
    {entries : List (Sigma fun _ : Nat => ExeTensor)} {own : Place → Option Nat}
    (hkeys : entries.NodupKeys) (hmarked : ∀ entry ∈ entries, entry.2.Marked)
    (hown : ∀ entry ∈ entries, own (place entry.1) = entry.2.innerBuffer) :
    ∃ own', Ledger.Steps ⟨own, w.log⟩
        ⟨own', (destroyTensors w (entries.map Sigma.snd)).2.log⟩ ∧
      ∀ p, (∀ i, p ≠ place i) → own' p = own p := by
  induction entries generalizing w own with
  | nil => exact ⟨own, .refl, fun _ _ => rfl⟩
  | cons entry entries ih =>
    obtain ⟨index, x⟩ := entry
    rw [List.nodupKeys_cons] at hkeys
    rw [List.map_cons, destroyTensors]
    cases ht : x.tensor with
    | none => exact ⟨own, .refl, fun _ _ => rfl⟩
    | some t =>
      have hlog := log_release (w := w) (hmarked ⟨index, x⟩ List.mem_cons_self) ht
      have hclear := Ledger.steps_clear ⟨own, w.log⟩ (place index)
      rw [show (Ledger.State.mk own w.log).own = own from rfl,
        hown ⟨index, x⟩ List.mem_cons_self] at hclear
      have hrest : ∀ entry ∈ entries,
          Function.update own (place index) none (place entry.1) = entry.2.innerBuffer := by
        intro entry hentry
        have hne : place entry.1 ≠ place index := by
          intro heq
          have hmem : entry.1 ∈ entries.keys := List.mem_keys_of_mem hentry
          rw [hplace heq] at hmem
          exact hkeys.1 hmem
        rw [Function.update_of_ne hne]
        exact hown entry (List.mem_cons_of_mem _ hentry)
      obtain ⟨own', hsteps, hother⟩ := @ih
        (if x.isInnerMem then w.releaseBuffer t.buffer else w) _ hkeys.2
        (fun entry hentry => hmarked entry (List.mem_cons_of_mem _ hentry)) hrest
      rw [hlog] at hsteps
      refine ⟨own', hclear.trans hsteps, fun p hp => ?_⟩
      rw [hother p hp, Function.update_of_ne (hp index)]

/-- **The destructor** releases the buffers of the entries. -/
theorem destroy_steps (he : e.Marked) (w : World) :
    ∃ own, Ledger.Steps (ledger (e, w)) ⟨own, (e.destroy w).2.log⟩ := by
  have hlookup : ∀ {xs : AList fun _ : Nat => ExeTensor} {entry}, entry ∈ xs.entries →
      xs.lookup entry.1 = some entry.2 :=
    fun hentry => AList.mem_lookup_iff.mpr hentry
  obtain ⟨own, hinputs, hother⟩ := @destroyTensors_steps w .input
    (fun _ _ h => Place.input.inj h) _ e.holds e.inputTensors.nodupKeys
    (fun entry hentry => he.input entry.1 entry.2 (hlookup hentry))
    (fun entry hentry => by
      show (e.inputTensors.lookup entry.1).bind _ = _
      rw [hlookup hentry]
      rfl)
  cases hdestroy : destroyTensors w (e.inputTensors.entries.map Sigma.snd) with
  | mk fault w₁ =>
    rw [hdestroy] at hinputs
    rw [destroy, hdestroy]
    cases fault with
    | some fault => exact ⟨own, hinputs⟩
    | none =>
      obtain ⟨own', houtputs, -⟩ := @destroyTensors_steps w₁ .output
        (fun _ _ h => Place.output.inj h) _ own e.outputTensors.nodupKeys
        (fun entry hentry => he.output entry.1 entry.2 (hlookup hentry))
        (fun entry hentry => by
          rw [hother _ fun i h => by cases h]
          show (e.outputTensors.lookup entry.1).bind _ = _
          rw [hlookup hentry]
          rfl)
      exact ⟨own', hinputs.trans houtputs⟩

end Destroy

/-! ## Whole runs -/

/-- Every entry that is marked as inner memory holds a buffer that is allocated
and not released, and no other entry holds it. -/
structure Owned (s : NNExecutor × World) : Prop where
  input : ∀ index x, s.1.inputTensors.lookup index = some x → x.isInnerMem = true →
    ∃ id, x.innerBuffer = some id ∧ Ledger.Live s.2.log id
  output : ∀ index x, s.1.outputTensors.lookup index = some x → x.isInnerMem = true →
    ∃ id, x.innerBuffer = some id ∧ Ledger.Live s.2.log id
  distinct : ∀ p q id, s.1.holds p = some id → s.1.holds q = some id → p = q

/-- What holds of every run, whether or not it abandons a buffer. -/
structure Tracked (s : NNExecutor × World) : Prop where
  marked : s.1.Marked
  numbered : Numbered s.2.log
  named : Ledger.Named (ledger s)

section Runs

variable {s s' : NNExecutor × World} {call : ExecutorEnv × ExecutorCall}

theorem tracked_step (hs : Tracked s) (h : step s call = .ok s') : Tracked s' := by
  obtain ⟨ret, hperform⟩ := step_eq_ok h
  obtain ⟨hkept, hlost⟩ := perform_tracks hs.marked hs.numbered hperform
  by_cases habandons : Abandons s call
  · obtain ⟨hledger, hmarked, hnumbered⟩ := hlost habandons
    exact ⟨hmarked, hnumbered, hs.named.abandons hledger⟩
  · obtain ⟨hsteps, hmarked, hnumbered⟩ := hkept habandons
    exact ⟨hmarked, hnumbered, hs.named.steps hsteps⟩

/-- **One call** keeps soundness iff it abandons no buffer. -/
theorem Tracked.sound_step_iff (hs : Tracked s) (hsound : Ledger.Sound (ledger s))
    (h : step s call = .ok s') : Ledger.Sound (ledger s') ↔ ¬ Abandons s call := by
  obtain ⟨ret, hperform⟩ := step_eq_ok h
  obtain ⟨hkept, hlost⟩ := perform_tracks hs.marked hs.numbered hperform
  constructor
  · intro hsound' habandons
    exact (hlost habandons).1.not_sound hsound'
  · intro habandons
    exact ((hkept habandons).steps.sound_iff hs.named).mpr hsound

/-- Soundness does not come back. -/
theorem Tracked.not_sound_step (hs : Tracked s) (hsound : ¬ Ledger.Sound (ledger s))
    (h : step s call = .ok s') : ¬ Ledger.Sound (ledger s') := by
  obtain ⟨ret, hperform⟩ := step_eq_ok h
  obtain ⟨hkept, hlost⟩ := perform_tracks hs.marked hs.numbered hperform
  by_cases habandons : Abandons s call
  · exact (hlost habandons).1.not_sound
  · intro hsound'
    exact hsound (((hkept habandons).steps.sound_iff hs.named).mp hsound')

/-- After the destructor nothing wrong has happened iff the ledger was sound before it. -/
theorem Tracked.owned_iff_sound (hs : Tracked s) :
    Owned s ∧ Ledger.Clean (s.1.destroy s.2).2.log ↔ Ledger.Sound (ledger s) := by
  obtain ⟨own, hsteps⟩ := destroy_steps hs.marked s.2
  constructor
  · -- The log up to here is a beginning of the one that `destroy` leaves.
    rintro ⟨howned, hclean⟩
    obtain ⟨events, heq⟩ := Ledger.Steps.prefix hsteps
    have hlog : (s.1.destroy s.2).2.log = s.2.log ++ events := heq.symm
    rw [hlog] at hclean
    refine ⟨fun p id hp => ?_, hclean.of_append⟩
    have hlive : ∀ x : ExeTensor, x.Marked → x.innerBuffer = some id →
        (x.isInnerMem = true → ∃ id, x.innerBuffer = some id ∧ Ledger.Live s.2.log id) →
          Ledger.Live s.2.log id := by
      intro x hmarked hid hx
      rw [ExeTensor.Marked, hid] at hmarked
      obtain ⟨id', hid', hlive⟩ := hx hmarked
      rw [hid] at hid'
      cases hid'
      exact hlive
    cases p with
    | input index =>
      obtain ⟨x, hx, hid⟩ := Option.bind_eq_some_iff.mp hp
      exact hlive x (hs.marked.input index x hx) hid (howned.input index x hx)
    | output index =>
      obtain ⟨x, hx, hid⟩ := Option.bind_eq_some_iff.mp hp
      exact hlive x (hs.marked.output index x hx) hid (howned.output index x hx)
    | hand => cases hp
  · intro hsound
    have hclean : Ledger.Sound ⟨own, (s.1.destroy s.2).2.log⟩ :=
      (Ledger.Steps.sound_iff hs.named hsteps).mpr hsound
    refine ⟨⟨fun index x hx hinner => ?_, fun index x hx hinner => ?_, hs.named.distinct⟩,
      hclean.clean⟩
    · obtain ⟨id, hid⟩ := (hs.marked.input index x hx).innerBuffer_eq_some hinner
      refine ⟨id, hid, hsound.live (.input index) id ?_⟩
      show (s.1.inputTensors.lookup index).bind _ = _
      rw [hx]
      exact hid
    · obtain ⟨id, hid⟩ := (hs.marked.output index x hx).innerBuffer_eq_some hinner
      refine ⟨id, hid, hsound.live (.output index) id ?_⟩
      show (s.1.outputTensors.lookup index).bind _ = _
      rw [hx]
      exact hid

/-- An executor that is created has no buffers. -/
theorem tracked_create {c : NNCompiler Nat} {e : NNExecutor} {w : World}
    (hcreate : c.createExecutor true = some e) (hnumbered : Numbered w.log)
    (hclean : Ledger.Clean w.log) : Tracked (e, w) ∧ Ledger.Sound (ledger (e, w)) := by
  obtain ⟨model, -, rfl⟩ := NNCompiler.createExecutor_eq_some hcreate
  have hnone : ∀ p, (NNExecutor.create c model).holds p = none := by
    intro p
    cases p with
    | input => rfl
    | output => rfl
    | hand => rfl
  have hnothing : ∀ p id, (NNExecutor.create c model).holds p ≠ some id := by
    intro p id hp
    rw [hnone p] at hp
    cases hp
  refine ⟨⟨⟨(fun _ _ hx => by cases hx), (fun _ _ hx => by cases hx)⟩, hnumbered, ?_⟩, ?_⟩
  · exact ⟨fun p id hp => absurd hp (hnothing p id), fun p _ id hp => absurd hp (hnothing p id)⟩
  · exact ⟨fun p id hp => absurd hp (hnothing p id), hclean⟩

/-- **Device buffers**: after any calls on an executor, and its destructor, every
entry marked as inner memory held a live buffer of its own, and no buffer was
released twice or used after its release, iff no call abandoned a buffer. -/
theorem owned_iff {c : NNCompiler Nat} {e : NNExecutor} {w : World}
    {calls : List (ExecutorEnv × ExecutorCall)} (hcreate : c.createExecutor true = some e)
    (hnumbered : Numbered w.log) (hclean : Ledger.Clean w.log)
    (hexec : Run.exec step (e, w) calls = .ok s') :
    Owned s' ∧ Ledger.Clean (s'.1.destroy s'.2).2.log ↔
      Run.Meets step (fun s call => ¬ Abandons s call) (e, w) calls := by
  obtain ⟨htracked, hsound⟩ := tracked_create hcreate hnumbered hclean
  have htracked' : Tracked s' :=
    Run.exec_invariant (fun _ _ _ hs h => tracked_step hs h) htracked hexec
  rw [htracked'.owned_iff_sound]
  exact Run.exec_iff_meets (P := fun s => Ledger.Sound (ledger s))
    (fun _ _ _ hs h => tracked_step hs h) (fun _ _ _ hs hP h => hs.sound_step_iff hP h)
    (fun _ _ _ hs hP h => hs.not_sound_step hP h) htracked hsound hexec

/-- An output is set, and then again with a length the device cannot allocate. -/
def growOutput : List (ExecutorEnv × ExecutorCall) :=
  [({}, .setOutput 0 (some 0) 8), ({ allocate := false }, .setOutput 0 (some 0) 16)]

/-- A run without failures, and what the theorem says of it. -/
theorem owned_iff_setOutput : ∃ s',
    Run.exec step (NNExecutor.create ((smallCompiler [2]).share {}).1 ⟨0, (.success, []), .success⟩,
      ((smallCompiler [2]).share {}).2) [({}, .setOutput 0 (some 0) 8)] = .ok s' ∧
      (Owned s' ∧ Ledger.Clean (s'.1.destroy s'.2).2.log ↔
        Run.Meets step (fun s call => ¬ Abandons s call)
          (NNExecutor.create ((smallCompiler [2]).share {}).1 ⟨0, (.success, []), .success⟩,
            ((smallCompiler [2]).share {}).2) [({}, .setOutput 0 (some 0) 8)]) :=
  ⟨_, rfl, owned_iff (c := ((smallCompiler [2]).share {}).1) rfl numbered_nil Ledger.clean_nil rfl⟩

/-- **A released buffer** is released again by the destructor. -/
theorem growOutput_not_owned : ∃ e s',
    ((smallCompiler [2]).share {}).1.createExecutor true = some e ∧
      Run.exec step (e, ((smallCompiler [2]).share {}).2) growOutput = .ok s' ∧
      ¬ (Owned s' ∧ Ledger.Clean (s'.1.destroy s'.2).2.log) := by
  refine ⟨_, _, rfl, rfl, ?_⟩
  rintro ⟨-, hclean⟩
  have hlive : Ledger.Live [.acquire 0, .release 0] 0 :=
    hclean [.acquire 0, .release 0] (.release 0) [] rfl
  exact hlive.2 (by decide)

end Runs

end NNExecutor

end NNRt
