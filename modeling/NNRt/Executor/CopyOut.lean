import NNRt.Executor.Effects

/-!
# Copying outputs to the user

- `Copies`: what `Run` does to the world is what the device does, and then a list of
  copies; `run_copies`: **which copies these are.**
- `Fits`: the length of the user's buffer is at most that of the device buffer.
  Every call keeps this, whatever the device reports.
- `copies_fit`: **every copy of every run stays within both buffers.**
-/

namespace NNRt

/-- A copy from the device buffer of an output to the user's buffer. -/
structure Copy where
  index : Nat
  deviceBuffer : Address
  userBuffer : Nat
  /-- The count given to `memcpy_s`. -/
  size : Nat

/-- What a copy does to the world. -/
def Copy.apply (w : World) (copy : Copy) : World :=
  (w.touch [some copy.deviceBuffer]).write (some (.user copy.userBuffer))
    ((w.memory copy.deviceBuffer).take copy.size)

/-- The copy is that of an entry that is marked and of its tensor, and its size is checked. -/
structure Copy.IsOf (copy : Copy) (x : ExeTensor) (t : NNTensor Address) : Prop where
  marked : x.isInnerMem = true
  deviceBuffer : t.buffer = some copy.deviceBuffer
  userBuffer : x.userBuffer = some copy.userBuffer
  size : copy.size = t.dataLength
  checked : copy.size ≤ x.userBufferLength

/-- The user's buffer of an output that is copied is not longer than the device buffer. -/
def ExeTensor.Fits (x : ExeTensor) : Prop :=
  x.isInnerMem = true → ∃ t, x.tensor = some t ∧ x.userBufferLength ≤ t.bufferLength

namespace NNExecutor

/-- Every output fits. -/
def Fits (e : NNExecutor) : Prop :=
  ∀ index x, e.outputTensors.lookup index = some x → x.Fits

/-! ## The copies of a run -/

/-- `Run` does not come to the device and leaves the world as it is, or the device runs the
tensors, shapes are written, and these copies are made one after the other. -/
inductive Copies (e : NNExecutor) (w : World) (env : ExecutorEnv) : List Copy → World → Prop
  | refused : Copies e w env [] w
  | asked {inputs outputs : List (NNTensor Address)} (descs : List TensorDesc)
    (copies : List Copy)
    (hinputs : tensorsOf e.inputTensors e.inputTensors.entries.length = some inputs)
    (houtputs : tensorsOf e.outputTensors e.outputTensors.entries.length = some outputs) :
    Copies e w env copies
      (copies.foldl Copy.apply { deviceRun w env.run inputs outputs with descs := descs })

/-- A copy that does not succeed does nothing. -/
theorem copyOutput_failed {w w' : World} {x : ExeTensor} {t : NNTensor Address} {ret : ReturnCode}
    (h : copyOutput w x t = (ret, w')) (hret : ret ≠ .success) : w' = w := by
  unfold copyOutput at h
  split at h
  · cases h
    rfl
  split at h
  · cases h
    rfl
  split at h
  · cases h
    rfl
  split at h
  · cases h
    rfl
  · cases h
    exact absurd rfl hret

/-- A copy that succeeds has as many bytes as the dimensions say. -/
theorem copyOutput_success {w w' : World} {x : ExeTensor} {t : NNTensor Address}
    (hmarked : x.isInnerMem = true) (h : copyOutput w x t = (.success, w')) (index : Nat) :
    ∃ copy : Copy, copy.index = index ∧ copy.IsOf x t ∧ w' = copy.apply w := by
  unfold copyOutput at h
  split at h
  · cases h
  rename_i hsize
  split at h
  · cases h
  rename_i deviceBuffer hdevice
  split at h
  · cases h
  rename_i userBuffer huser
  split at h
  · cases h
  · cases h
    exact ⟨⟨index, deviceBuffer, userBuffer, t.dataLength⟩, rfl,
      ⟨hmarked, hdevice, huser, rfl, Nat.le_of_not_lt hsize⟩, rfl⟩

/-- The copies of the loop over the outputs `i`, …, `i + n - 1`, and the world and the code it
ends with. -/
structure LoopCopies (e : NNExecutor) (i n : Nat) (w w' : World) (ret : ReturnCode)
    (copies : List Copy) : Prop where
  world : w' = copies.foldl Copy.apply w
  ordered : copies.Pairwise fun copy later => copy.index < later.index
  each : ∀ copy ∈ copies, i ≤ copy.index ∧ copy.index < i + n ∧ ∃ x t,
    e.outputTensors.lookup copy.index = some x ∧ x.tensor = some t ∧ copy.IsOf x t
  all : ret = .success → ∀ index x t, i ≤ index → index < i + n →
    e.outputTensors.lookup index = some x → x.tensor = some t → x.isInnerMem = true →
      ∃ copy ∈ copies, copy.index = index

section Loop

variable {e : NNExecutor} {i n : Nat} {w w₁ w' : World} {ret : ReturnCode} {copies : List Copy}

/-- An output is passed over if it is not marked or has no tensor. -/
theorem LoopCopies.skip (h : e.LoopCopies (i + 1) n w w' ret copies)
    (hnot : ∀ x t, e.outputTensors.lookup i = some x → x.tensor = some t → ¬ x.isInnerMem = true) :
    e.LoopCopies i (n + 1) w w' ret copies := by
  refine ⟨h.world, h.ordered, fun copy hcopy => ?_, fun hret index x t hle hlt hx ht hmarked => ?_⟩
  · obtain ⟨hle, hlt, hentry⟩ := h.each copy hcopy
    exact ⟨by omega, by omega, hentry⟩
  · by_cases heq : index = i
    · subst heq
      exact absurd hmarked (hnot x t hx ht)
    · exact h.all hret index x t (by omega) (by omega) hx ht hmarked

/-- An output is copied before those that follow. -/
theorem LoopCopies.cons {copy : Copy} {x : ExeTensor} {t : NNTensor Address}
    (h : e.LoopCopies (i + 1) n (copy.apply w) w' ret copies) (hindex : copy.index = i)
    (hx : e.outputTensors.lookup i = some x) (ht : x.tensor = some t) (hof : copy.IsOf x t) :
    e.LoopCopies i (n + 1) w w' ret (copy :: copies) := by
  refine ⟨h.world, List.pairwise_cons.mpr ⟨fun later hlater => ?_, h.ordered⟩,
    fun later hlater => ?_, fun hret index y u hle hlt hy hu hmarked => ?_⟩
  · have hle := (h.each later hlater).1
    omega
  · rcases List.mem_cons.mp hlater with rfl | hlater
    · exact ⟨by omega, by omega, x, t, hindex ▸ hx, ht, hof⟩
    · obtain ⟨hle, hlt, hentry⟩ := h.each later hlater
      exact ⟨by omega, by omega, hentry⟩
  · by_cases heq : index = i
    · exact ⟨copy, List.mem_cons_self, hindex.trans heq.symm⟩
    · obtain ⟨later, hlater, hlaterIndex⟩ :=
        h.all hret index y u (by omega) (by omega) hy hu hmarked
      exact ⟨later, List.mem_cons_of_mem _ hlater, hlaterIndex⟩

/-- **The loop** makes one copy of each marked output, in their order, up to the first that
is refused. -/
theorem copyOutputs_copies (h : e.copyOutputs i n w = (ret, w')) :
    ∃ copies, e.LoopCopies i n w w' ret copies := by
  induction n generalizing i w with
  | zero =>
    cases h
    exact ⟨[], rfl, .nil, nofun, fun _ index x t hle hlt => absurd hlt (Nat.not_lt.mpr hle)⟩
  | succ n ih =>
    unfold copyOutputs at h
    split at h
    · rename_i hentry
      obtain ⟨copies, hcopies⟩ := ih h
      refine ⟨copies, hcopies.skip fun x t hx ht => ?_⟩
      rw [hx, Option.bind_some, ht] at hentry
      cases hentry
    rename_i x t hentry
    obtain ⟨y, hx, hmap⟩ := Option.bind_eq_some_iff.mp hentry
    obtain ⟨t', ht, heq⟩ := Option.map_eq_some_iff.mp hmap
    cases heq
    split at h
    · rename_i hmarked
      cases hcopy : copyOutput w x t with
      | mk ret₁ w₁ =>
        rw [hcopy] at h
        by_cases hret₁ : ret₁ = .success
        · subst hret₁
          obtain ⟨copy, hindex, hof, rfl⟩ := copyOutput_success hmarked hcopy i
          obtain ⟨copies, hcopies⟩ := ih h
          exact ⟨copy :: copies, hcopies.cons hindex hx ht hof⟩
        · -- The loop ends here, and nothing has been written.
          have hw := copyOutput_failed hcopy hret₁
          have heq : (ret₁, w₁) = (ret, w') := by
            cases ret₁ with
            | success => exact absurd rfl hret₁
            | _ => exact h
          cases heq
          exact ⟨[], hw, .nil, nofun, fun hret => absurd hret hret₁⟩
    · rename_i hmarked
      obtain ⟨copies, hcopies⟩ := ih h
      refine ⟨copies, hcopies.skip fun x t hx' ht' => ?_⟩
      cases hx.symm.trans hx'
      exact hmarked

end Loop

/-- **What `Run` does to the world**: each copy is of an output whose dimensions were just
set, and after a success every marked output is copied. -/
theorem run_copies {e e' : NNExecutor} {w w' : World} {env : ExecutorEnv} {ret : ReturnCode}
    (h : e.run w env = .ok (ret, e', w')) :
    ∃ copies, e.Copies w env copies w' ∧
      copies.Pairwise (fun copy later => copy.index < later.index) ∧
      (∀ copy ∈ copies, ∃ dims x old t, env.run.outputsDims[copy.index]? = some dims ∧
        e.outputTensors.lookup copy.index = some x ∧ x.tensor = some old ∧
        old.setDimensions dims = (.success, t) ∧ copy.IsOf x t) ∧
      (ret = .success → ∀ index x, index < e.outputTensors.entries.length →
        e.outputTensors.lookup index = some x → x.isInnerMem = true →
          ∃ copy ∈ copies, copy.index = index) := by
  cases run_ran h with
  | refused => exact ⟨[], .refused, .nil, nofun, nofun⟩
  | failed hinputs houtputs hret =>
    exact ⟨[], .asked _ [] hinputs houtputs, .nil, nofun, fun hsuccess => absurd hsuccess hret⟩
  | dims hinputs houtputs hdims hret =>
    rw [(setOutputDims_sameBuffers (aligned_of_tensorsOf houtputs) hdims).2]
    exact ⟨[], .asked _ [] hinputs houtputs, .nil, nofun, fun hsuccess => absurd hsuccess hret⟩
  | @copied inputs outputs _ _ w₁ _ hdescs hinputs houtputs hcode hlength hdims hcopy =>
    have haligned := aligned_of_tensorsOf houtputs
    have hlen := tensorsOf_length houtputs
    have hw₁ := (setOutputDims_sameBuffers haligned hdims).2
    obtain ⟨copies, hloop⟩ := copyOutputs_copies hcopy
    -- The entry at an index, before and after its dimensions are set.
    have hentry : ∀ index < outputs.length, ∃ dims x old t,
        env.run.outputsDims[index]? = some dims ∧ e.outputTensors.lookup index = some x ∧
          x.tensor = some old ∧ old.setDimensions dims = (.success, t) ∧
          e'.outputTensors.lookup index = some { x with tensor := some t } := by
      intro index hlt
      obtain ⟨dims, x, t, hreported, hx, hold, hset, hend⟩ :=
        setOutputDims_success haligned (by omega) (by omega) hdims (List.getElem?_eq_getElem hlt)
      rw [Nat.zero_add] at hx hend
      exact ⟨dims, x, _, t, hreported, hx, hold, hset, hend⟩
    refine ⟨copies, ?_, hloop.ordered, fun copy hmem => ?_, fun hret index x hlt hx hmarked => ?_⟩
    · rw [hloop.world, hw₁]
      exact .asked _ copies hinputs houtputs
    · obtain ⟨-, hlt, x', t', hx', ht', hof⟩ := hloop.each copy hmem
      rw [Nat.zero_add] at hlt
      obtain ⟨dims, x, old, t, hreported, hx, hold, hset, hend⟩ := hentry copy.index hlt
      cases hx'.symm.trans hend
      cases ht'
      exact ⟨dims, x, old, _, hreported, hx, hold, hset, hof.marked, hof.deviceBuffer,
        hof.userBuffer, hof.size, hof.checked⟩
    · rw [← hlen] at hlt
      obtain ⟨dims, y, old, t, -, hy, -, -, hend⟩ := hentry index hlt
      cases hx.symm.trans hy
      exact hloop.all hret index _ t (Nat.zero_le _) (by omega) hend rfl hmarked

/-! ## Every output fits -/

section Fits

variable {e e' : NNExecutor} {w w' : World} {env : ExecutorEnv} {ret : ReturnCode} {index : Nat}

theorem fits_of_not_isInnerMem {x : ExeTensor} (h : x.isInnerMem = false) : x.Fits := by
  intro hinner
  rw [h] at hinner
  cases hinner

theorem Fits.putOutput {x : ExeTensor} (he : e.Fits) (hx : x.Fits) :
    (e.putOutput index x).Fits := by
  intro i y hy
  rw [outputTensors_putOutput] at hy
  by_cases hi : i = index
  · rw [hi, AList.lookup_insert] at hy
    cases hy
    exact hx
  · rw [AList.lookup_insert_ne hi] at hy
    exact he i y hy

/-- A new device buffer is as long as the user's. -/
theorem setOutputBuffer_fits (he : e.Fits) {x : ExeTensor} {buffer : Option Nat} {length : Nat}
    (h : e.setOutputBuffer w env index x buffer length = .ok (ret, e', w')) : e'.Fits := by
  unfold setOutputBuffer at h
  split at h
  · cases h
    exact he
  split at h
  · cases h
  · cases h
    exact he.putOutput fun _ => ⟨_, rfl, le_rfl⟩

theorem setOutput_fits (he : e.Fits) {buffer : Option Nat} {length : Nat}
    (h : e.setOutput w env index buffer length = .ok (ret, e', w')) : e'.Fits := by
  cases setOutput_outputSet h with
  | refused => exact he
  | reused hchecked hx hinner ht hlength =>
    exact he.putOutput fun _ => ⟨_, ht, hlength⟩
  | grown hchecked hx hinner ht hlength h => exact setOutputBuffer_fits he h
  | replaced hchecked hx hinner h => exact setOutputBuffer_fits he h
  | unbuilt => exact he.putOutput (fits_of_not_isInnerMem rfl)
  | built hchecked hx hdesc ht h =>
    exact setOutputBuffer_fits (he.putOutput (fits_of_not_isInnerMem rfl)) h

theorem setOutputFromMemory_fits (he : e.Fits) {memory : OHNNMemory}
    (h : e.setOutputFromMemory w env index memory = .ok (ret, e', w')) : e'.Fits := by
  cases setOutputFromMemory_outputMemorySet h with
  | refused => exact he
  | replaced => exact he.putOutput (fits_of_not_isInnerMem rfl)
  | unbuilt => exact he.putOutput (fits_of_not_isInnerMem rfl)
  | built =>
    exact (he.putOutput (fits_of_not_isInnerMem rfl)).putOutput (fits_of_not_isInnerMem rfl)

theorem fits_of_view {x y : ExeTensor} (hview : x.view = y.view) (hy : y.Fits) : x.Fits := by
  obtain ⟨xt, xu, xl, xi⟩ := x
  obtain ⟨yt, yu, yl, yi⟩ := y
  obtain ⟨htensor, -, rfl, rfl⟩ : xt.map _ = yt.map _ ∧ xu = yu ∧ xl = yl ∧ xi = yi := by
    simpa [ExeTensor.view] using hview
  intro hinner
  obtain ⟨t, ht, hle⟩ := hy hinner
  have ht' : yt = some t := ht
  rw [ht'] at htensor
  obtain ⟨u, hu, heq⟩ := Option.map_eq_some_iff.mp htensor
  rw [Prod.mk.injEq] at heq
  exact ⟨u, hu, by rw [heq.2]; exact hle⟩

/-- Dimensions do not matter. -/
theorem SameBuffers.fits (h : SameBuffers e e') (he : e.Fits) : e'.Fits := by
  intro i x hx
  have hview := h.outputs i
  rw [hx] at hview
  cases hy : e.outputTensors.lookup i with
  | none =>
    rw [hy] at hview
    cases hview
  | some y =>
    rw [hy] at hview
    exact fits_of_view (Option.some.inj hview) (he i y hy)

theorem run_fits (he : e.Fits) (h : e.run w env = .ok (ret, e', w')) : e'.Fits := by
  cases run_ran h with
  | refused => exact he
  | failed => exact he
  | dims hinputs houtputs hdims =>
    exact (setOutputDims_sameBuffers (aligned_of_tensorsOf houtputs) hdims).1.fits he
  | copied hdescs hinputs houtputs hcode hlength hdims hcopy =>
    exact (setOutputDims_sameBuffers (aligned_of_tensorsOf houtputs) hdims).1.fits he

theorem fits_of_outputTensors (h : e'.outputTensors = e.outputTensors) (he : e.Fits) :
    e'.Fits := by
  intro i x hx
  rw [h] at hx
  exact he i x hx

/-- **Every call keeps every output fitting.** -/
theorem perform_fits (he : e.Fits) {call : ExecutorCall}
    (h : call.perform e w env = .ok (ret, e', w')) : e'.Fits := by
  cases call with
  | setInput => exact fits_of_outputTensors (setInput_inputSet h).outputTensors he
  | setInputFromMemory =>
    exact fits_of_outputTensors (setInputFromMemory_inputMemorySet h).outputTensors he
  | setOutput => exact setOutput_fits he h
  | setOutputFromMemory => exact setOutputFromMemory_fits he h
  | run => exact run_fits he h
  | _ => exact fits_of_outputTensors (perform_quiet id h).outputTensors he

end Fits

/-! ## Every copy -/

/-- **Copy-out bounds**: after any calls, every output marked as inner memory has a device
buffer at least as long as the user's; and whatever the device reports, all that `Run` writes
besides what the device does are copies of the marked outputs, each at most once and each
after a success. A copy has the size of the new dimensions and stays within both buffers. -/
theorem copies_fit {c : NNCompiler Nat} {e : NNExecutor} {w : World}
    {calls : List (ExecutorEnv × ExecutorCall)} {s' : NNExecutor × World}
    (hcreate : c.createExecutor true = some e) (hexec : Run.exec step (e, w) calls = .ok s') :
    (∀ index x, s'.1.outputTensors.lookup index = some x → x.isInnerMem = true →
      ∃ t, x.tensor = some t ∧ x.userBufferLength ≤ t.bufferLength) ∧
    ∀ env ret e' w', s'.1.run s'.2 env = .ok (ret, e', w') → ∃ copies,
      s'.1.Copies s'.2 env copies w' ∧
      copies.Pairwise (fun copy later => copy.index < later.index) ∧
      (∀ copy ∈ copies, ∃ dims x old t, env.run.outputsDims[copy.index]? = some dims ∧
        s'.1.outputTensors.lookup copy.index = some x ∧ x.tensor = some old ∧
        old.setDimensions dims = (.success, t) ∧ copy.IsOf x t ∧
        copy.size = t.dataLength ∧ copy.size ≤ x.userBufferLength ∧
        copy.size ≤ t.bufferLength) ∧
      (ret = .success → ∀ index x, index < s'.1.outputTensors.entries.length →
        s'.1.outputTensors.lookup index = some x → x.isInnerMem = true →
          ∃ copy ∈ copies, copy.index = index) := by
  have hcreated : e.Fits := by
    obtain ⟨preparedModel, -, rfl⟩ := NNCompiler.createExecutor_eq_some hcreate
    intro index x hx
    cases hx
  have hfits : s'.1.Fits := by
    refine Run.exec_invariant (P := fun s => s.1.Fits) (fun s call t hs h => ?_) hcreated hexec
    obtain ⟨ret, hperform⟩ := step_eq_ok h
    exact perform_fits hs hperform
  refine ⟨hfits, fun env ret e' w' hrun => ?_⟩
  obtain ⟨copies, hcopies, hordered, heach, hall⟩ := run_copies hrun
  refine ⟨copies, hcopies, hordered, fun copy hcopy => ?_, hall⟩
  obtain ⟨dims, x, old, t, hreported, hx, hold, hset, hof⟩ := heach copy hcopy
  refine ⟨dims, x, old, t, hreported, hx, hold, hset, hof, hof.size, hof.checked, ?_⟩
  -- The device buffer is the one from before the run.
  obtain ⟨t', ht', hfit⟩ := hfits copy.index x hx hof.marked
  rw [hold] at ht'
  cases ht'
  have hsame := old.setDimensions_bufferLength dims
  rw [hset] at hsame
  rw [hsame]
  exact hof.checked.trans hfit

/-- The input and the output are set, the latter with more bytes than it has. -/
def setWideOutput : List (ExecutorEnv × ExecutorCall) :=
  [({}, .setInput 0 { dataType := some .float32, dimensions := .array [2] }
      (some (List.replicate 8 0)) 8),
    ({}, .setOutput 0 (some 0) 12)]

/-- The device fills its buffers. -/
def fillsBuffers : ExecutorEnv where
  run := { outputsDims := [[2]], outputData := fun _ => [1, 2, 3, 4, 5, 6, 7, 8, 9, 10, 11, 12] }

/-- Eight of the twelve bytes are copied. -/
theorem copies_fit_setWideOutput : ∃ s' e' w' copies copy,
    Run.exec step (NNExecutor.create ((smallCompiler [2]).share {}).1 ⟨0, (.success, []), .success⟩,
      ((smallCompiler [2]).share {}).2) setWideOutput = .ok s' ∧
    s'.1.run s'.2 fillsBuffers = .ok (.success, e', w') ∧
    w'.memory (.user 0) = [1, 2, 3, 4, 5, 6, 7, 8] ∧
    s'.1.Copies s'.2 fillsBuffers copies w' ∧ copy ∈ copies ∧ copy.index = 0 ∧ copy.size ≤ 12 := by
  obtain ⟨s', hexec, ⟨x, hx, hmarked, hlength⟩, hcount, e', w', hrun, hmemory⟩ : ∃ s',
      Run.exec step (NNExecutor.create ((smallCompiler [2]).share {}).1
        ⟨0, (.success, []), .success⟩, ((smallCompiler [2]).share {}).2) setWideOutput = .ok s' ∧
      (∃ x, s'.1.outputTensors.lookup 0 = some x ∧ x.isInnerMem = true ∧
        x.userBufferLength = 12) ∧
      0 < s'.1.outputTensors.entries.length ∧
      ∃ e' w', s'.1.run s'.2 fillsBuffers = .ok (.success, e', w') ∧
        w'.memory (.user 0) = [1, 2, 3, 4, 5, 6, 7, 8] :=
    ⟨_, rfl, ⟨_, rfl, rfl, rfl⟩, Nat.one_pos, _, _, rfl, rfl⟩
  obtain ⟨copies, hcopies, -, heach, hall⟩ :=
    (copies_fit (c := ((smallCompiler [2]).share {}).1) rfl hexec).2 fillsBuffers _ e' w' hrun
  obtain ⟨copy, hcopy, hindex⟩ := hall rfl 0 x hcount hx hmarked
  obtain ⟨dims, y, old, t, -, hy, -, -, -, -, hle, -⟩ := heach copy hcopy
  rw [hindex, hx, Option.some.injEq] at hy
  subst hy
  exact ⟨s', e', w', copies, copy, hexec, hrun, hmemory, hcopies, hcopy, hindex, hlength ▸ hle⟩

end NNExecutor

end NNRt
