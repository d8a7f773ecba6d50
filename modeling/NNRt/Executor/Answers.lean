import NNRt.Executor.Agreement
import NNRt.Executor.Filled
import NNRt.Executor.RangeChecks

/-!
# Calls on an unloaded executor

`DeinitModel` and `DestroyPreparedModel` take the prepared model away.
`RunSync` and `RunSyncWithAipp` look for it and reload it; the other calls that
use it do not. Reloading in turn goes through the configuration, which only
`SetExtensionConfig` creates.

- `Answers`: a call comes to an end, and without a prepared model it restores it or
  returns an error.
- `checkInputsLoop_returns_iff` / `setSyncDims_returns_iff` / `setAippDims_returns_iff`:
  when the loops of a synchronous run read nothing beyond an end.
- `reload_returns_iff`: when a reload comes to an end.
- `answers_iff_guarded`, `calls_answer_iff`: **this holds exactly of the `Guarded`
  calls.**
-/

namespace NNRt

namespace NNExecutor

/-- A call that began with `e` comes to an end; a success without a prepared model
has restored it. -/
def AnswersWith (e : NNExecutor) (outcome : Outcome) : Prop :=
  ∃ ret e' w', outcome = .ok (ret, e', w') ∧
    (e.preparedModel = none → ret = .success → e'.preparedModel.isSome)

/-- A call that uses the prepared model does not crash, and without a prepared model
it restores it or returns an error. -/
def Answers (s : NNExecutor × World) (call : ExecutorEnv × ExecutorCall) : Prop :=
  match call.2 with
  | .setInput .. | .setInputFromMemory .. | .run | .getInputDimRange .. | .runSync ..
  | .runSyncWithAipp .. => s.1.AnswersWith (call.2.perform s.1 s.2 call.1)
  | _ => True

/-! ## The condition -/

/-- The range of an input has been asked for before. -/
def RangeCached (e : NNExecutor) (inputIndex : Nat) : Prop :=
  ∃ mins maxs, e.minInputDimsVec[inputIndex]? = some mins ∧
    e.maxInputDimsVec[inputIndex]? = some maxs ∧ mins.length = maxs.length

/-- When `GetInputDimRange` returns an error before it comes to the prepared
model, or finds it. -/
def GuardedDimRange (e : NNExecutor) (inputIndex : Nat) (args : DimRangeArgs) : Prop :=
  e.preparedModel.isSome ∨
    args.minInputDims = false ∨ args.maxInputDims = false ∨ args.shapeNum = false ∨
    e.minInputDimsVec ≠ [] ∧ ¬ e.RangeCached inputIndex

/-- When `Run` does not come to the tensors, or finds all of them and the model. -/
def GuardedRun (e : NNExecutor) : Prop :=
  e.inputTensorDescs.length ≠ e.inputTensors.entries.length ∨
    e.outputTensorDescs.length ≠ e.outputTensors.entries.length ∨
    (e.preparedModel.isSome ∧
      (∀ index < e.inputTensors.entries.length,
        ((e.inputTensors.lookup index).bind ExeTensor.tensor).isSome) ∧
      ∀ index < e.outputTensors.entries.length,
        ((e.outputTensors.lookup index).bind ExeTensor.tensor).isSome)

/-- When `SetInput` finds the model, and does not take a buffer over from an entry
that is not there. -/
def GuardedInput (e : NNExecutor) (w : World) (env : ExecutorEnv) (index : Nat)
    (nnTensor : OHNNTensor) (length : Nat) : Prop :=
  e.preparedModel.isSome ∧
    ¬ (e.inputTensors.lookup index = none ∧ nnTensor.dataType = some .unknown ∧ length ≠ 0 ∧
      e.AcceptsInput w env index nnTensor)

/-- An input that is given is a tensor, and each of its dimensions up to the first that
is refused has a range. -/
def EndsAt (tensors : List NNTensor2_0) (input : Option Nat) (mins maxs : List UInt32) : Prop :=
  ∀ address, input = some address → ∃ t, tensors[address]? = some t ∧
    ∀ desc, t.tensorDesc = some desc →
      RangedShape.Within ⟨desc.shape, mins, maxs⟩ ∨ RangedShape.Refused ⟨desc.shape, mins, maxs⟩

/-- An input is a tensor in its ranges. -/
def PassesAt (tensors : List NNTensor2_0) (input : Option Nat) (mins maxs : List UInt32) : Prop :=
  ∃ address t desc, input = some address ∧ tensors[address]? = some t ∧
    t.tensorDesc = some desc ∧ RangedShape.Within ⟨desc.shape, mins, maxs⟩

/-- The inputs up to the first that does not pass are checked without reading beyond
an end. -/
def ChecksEnd (tensors : List NNTensor2_0) :
    List (Option Nat) → List (List UInt32) → List (List UInt32) → Prop
  | input :: inputs, mins :: minDims, maxs :: maxDims =>
    EndsAt tensors input mins maxs ∧
      (PassesAt tensors input mins maxs → ChecksEnd tensors inputs minDims maxDims)
  | _, _, _ => True

/-- The outputs up to the first that does not take its dimensions are tensors, and there
are enough of the `count` descriptions for those that do. -/
def OutputsEnd (tensors : List NNTensor2_0) : Nat → List Nat → List (List Int32) → Prop
  | count, address :: addresses, dims :: outputsDims =>
    address < tensors.length ∧ (Described tensors address → ShapeAccepted dims →
      0 < count ∧ OutputsEnd tensors (count - 1) addresses outputsDims)
  | _, _, _ => True

/-- `CheckInputDimRanges` with a model reads nothing beyond an end. -/
def ChecksInside (w : World) (env : ExecutorEnv) (inputTensors : List (Option Nat)) : Prop :=
  env.dimRanges.code = .success →
    inputTensors.length = env.dimRanges.minInputDims.length →
    inputTensors.length = env.dimRanges.maxInputDims.length →
    ChecksEnd w.tensors inputTensors env.dimRanges.minInputDims env.dimRanges.maxInputDims

/-- Nor does `RunSync` with `count` descriptions of outputs. -/
def SyncInside (w : World) (env : ExecutorEnv) (inputTensors outputTensors : List (Option Nat))
    (count : Nat) : Prop :=
  ChecksInside w env inputTensors ∧
    (DeviceAnswers w env inputTensors outputTensors → ∀ outputs, outputTensors = outputs.map some →
      OutputsEnd w.tensors count outputs env.run.outputsDims)

/-- Nor does `RunSyncWithAipp`, which leaves the tensors of the user alone. -/
def AippInside (w : World) (env : ExecutorEnv) (inputTensors outputTensors : List (Option Nat))
    (count : Nat) : Prop :=
  ChecksInside w env inputTensors ∧
    (DeviceAnswers w env inputTensors outputTensors → env.setAippString = .success →
      (∀ dims ∈ env.run.outputsDims.take count, ShapeAccepted dims) →
        env.run.outputsDims.length ≤ count)

/-- `Reload` of an executor without a model comes to an end: `Restore` does, and what it
returns has the two buffers of the descriptions, which are read within their pages. -/
def ReloadReturns (e : NNExecutor) (w : World) (env : ReloadEnv) : Prop :=
  e.cachePath ≠ "" → e.cacheVersion ≠ invalidCacheVersion →
    ∀ reply, env.cache.backend = some (some reply) → ∃ ret caches mappings,
      (e.reloadStore reply).restore env.cache.codec env.cache.io env.fs e.cachePath e.cacheVersion []
        w.mappings = .ok (ret, caches, mappings) ∧
      (ret = .success → cacheInputTensorDescOffset ≤ caches.length ∧
        ∀ fault, restoredDescs caches ≠ .error (.fault fault))

/-- `Reload` returns an error: the device is not asked, or does not prepare the model. -/
def ReloadRefuses (e : NNExecutor) (w : World) (env : ReloadEnv) : Prop :=
  e.ReloadReturns w env ∧ (e.ReloadAsks w env → env.cache.prepare.1 ≠ .success)

/-- When `RunSync` and `RunSyncWithAipp` find what they need. The run of the tensors is
`inside` with so many descriptions of outputs. -/
def GuardedSync (inside : Nat → Prop) (e : NNExecutor) (w : World) (env : ReloadEnv)
    (inputTensors outputTensors : List (Option Nat)) : Prop :=
  e.autoUnloadHandler.isSome ∧
    (e.inputTensorDescs.length ≠ inputTensors.length ∨
      e.outputTensorDescs.length ≠ outputTensors.length ∨
      e.preparedModel.isSome ∧ inside e.outputTensorDescs.length ∨
      e.preparedModel = none ∧
        (e.ReloadRefuses w env ∨ ∃ count, e.Restores w env count ∧ inside count))

/-- When a call comes to an end and does not need what is not there. -/
def Guarded (s : NNExecutor × World) (call : ExecutorEnv × ExecutorCall) : Prop :=
  match call.2 with
  | .setInput index nnTensor _ length => s.1.GuardedInput s.2 call.1 index nnTensor length
  | .setInputFromMemory .. => s.1.preparedModel.isSome
  | .run => s.1.GuardedRun
  | .getInputDimRange inputIndex args => s.1.GuardedDimRange inputIndex args
  | .runSync env inputTensors outputTensors =>
    GuardedSync (SyncInside s.2 call.1 inputTensors outputTensors) s.1 s.2 env inputTensors
      outputTensors
  | .runSyncWithAipp env inputTensors outputTensors =>
    GuardedSync (AippInside s.2 call.1 inputTensors outputTensors) s.1 s.2 env inputTensors
      outputTensors
  | _ => True

/-! ## Outcomes -/

section AnswersWith

variable {e e' : NNExecutor} {w' : World} {outcome : Outcome}

theorem not_answersWith_error (fault : Fault) : ¬ e.AnswersWith (.error fault) := by
  rintro ⟨ret, e', w', heq, -⟩
  cases heq

theorem answersWith_ret {ret : ReturnCode} (hret : ret ≠ .success) :
    e.AnswersWith (.ok (ret, e', w')) :=
  ⟨ret, e', w', rfl, fun _ hsuccess => absurd hsuccess hret⟩

theorem answersWith_success (he : e.preparedModel = none) :
    e.AnswersWith (.ok (.success, e', w')) ↔ e'.preparedModel.isSome := by
  constructor
  · rintro ⟨ret, e'', w'', heq, hrestored⟩
    cases heq
    exact hrestored he rfl
  · exact fun hsome => ⟨.success, e', w', rfl, fun _ _ => hsome⟩

/-- With a prepared model it is enough to come to an end. -/
theorem answersWith_loaded (he : e.preparedModel.isSome) :
    e.AnswersWith outcome ↔ ∃ result, outcome = .ok result := by
  constructor
  · rintro ⟨ret, e', w', heq, -⟩
    exact ⟨_, heq⟩
  · rintro ⟨⟨ret, e', w'⟩, heq⟩
    refine ⟨ret, e', w', heq, fun hnone => ?_⟩
    rw [hnone] at he
    cases he

end AnswersWith

/-- What faults in one way only comes to an end exactly if it does not. -/
theorem returns_iff_ne {α : Type} {result : Except Fault α} {fault : Fault}
    (havoids : Avoids (· ≠ fault) result) : (∃ a, result = .ok a) ↔ result ≠ .error fault := by
  cases result with
  | ok a => exact iff_of_true ⟨a, rfl⟩ nofun
  | error fault' =>
    have hsame : fault' = fault := not_not.mp (havoids fault' rfl)
    subst hsame
    exact iff_of_false not_exists_ok_error fun hne => hne rfl

/-! ## Inputs and `Run` -/

section Inputs

variable {e : NNExecutor} (w : World) (env : ExecutorEnv)

theorem setInput_answers_iff (hhollow : NoHollow e.inputTensors) (index : Nat)
    (nnTensor : OHNNTensor) (buffer : Option Bytes) (length : Nat) :
    e.AnswersWith (e.setInput w env index nnTensor buffer length) ↔
      e.GuardedInput w env index nnTensor length := by
  unfold GuardedInput
  by_cases hmodel : e.preparedModel.isSome
  · have havoids : Avoids (· ≠ Fault.nullDeref .tensor)
        (e.setInput w env index nnTensor buffer length) :=
      setInput_avoids (not_not.mpr rfl) hmodel w env index nnTensor buffer length
    rw [answersWith_loaded hmodel, returns_iff_ne havoids, and_iff_right hmodel, ne_eq,
      setInput_fault_iff hhollow hmodel]
  · have hnone : e.preparedModel = none := Option.not_isSome_iff_eq_none.mp hmodel
    rw [setInput, checkInputDimRange_unloaded hnone]
    exact iff_of_false (not_answersWith_error _) fun hboth => hmodel hboth.1

theorem setInputFromMemory_answers_iff (hhollow : NoHollow e.inputTensors) (index : Nat)
    (nnTensor : OHNNTensor) (memory : OHNNMemory) :
    e.AnswersWith (e.setInputFromMemory w env index nnTensor memory) ↔
      e.preparedModel.isSome := by
  by_cases hmodel : e.preparedModel.isSome
  · have havoids : Avoids (· ≠ Fault.nullDeref .tensor)
        (e.setInputFromMemory w env index nnTensor memory) :=
      setInputFromMemory_avoids (not_not.mpr rfl) hmodel w env index nnTensor memory
    rw [answersWith_loaded hmodel, returns_iff_ne havoids]
    exact iff_of_true (setInputFromMemory_finds hhollow hmodel w env index nnTensor memory) hmodel
  · have hnone : e.preparedModel = none := Option.not_isSome_iff_eq_none.mp hmodel
    rw [setInputFromMemory, checkInputDimRange_unloaded hnone]
    exact iff_of_false (not_answersWith_error _) hmodel

/-- A run of the tensors with a model comes to an end. -/
theorem runTensors_ok (hmodel : e.preparedModel.isSome)
    (inputTensors outputTensors : List (NNTensor Address)) :
    ∃ result, e.runTensors w env inputTensors outputTensors = .ok result := by
  obtain ⟨model, hmodel⟩ := Option.isSome_iff_exists.mp hmodel
  unfold runTensors
  rw [hmodel]
  dsimp only
  split
  · exact ⟨_, rfl⟩
  split
  · exact ⟨_, rfl⟩
  · exact ⟨_, rfl⟩

/-- **`Run`** looks for all the tensors before it comes to the model. -/
theorem run_answers_iff : e.AnswersWith (e.run w env) ↔ e.GuardedRun := by
  unfold run GuardedRun
  by_cases hinputs : e.inputTensorDescs.length ≠ e.inputTensors.entries.length
  · rw [if_pos hinputs]
    exact iff_of_true (answersWith_ret nofun) (Or.inl hinputs)
  rw [if_neg hinputs, or_iff_right hinputs]
  by_cases houtputs : e.outputTensorDescs.length ≠ e.outputTensors.entries.length
  · rw [if_pos houtputs]
    exact iff_of_true (answersWith_ret nofun) (Or.inl houtputs)
  rw [if_neg houtputs, or_iff_right houtputs, ← tensorsOf_isSome_iff, ← tensorsOf_isSome_iff]
  cases tensorsOf e.inputTensors e.inputTensors.entries.length with
  | none => exact iff_of_false (not_answersWith_error _) fun hall => nomatch hall.2.1
  | some inputTensors =>
    cases tensorsOf e.outputTensors e.outputTensors.entries.length with
    | none => exact iff_of_false (not_answersWith_error _) fun hall => nomatch hall.2.2
    | some outputTensors =>
      dsimp only
      by_cases hmodel : e.preparedModel.isSome
      · refine iff_of_true ((answersWith_loaded hmodel).mpr ?_) ⟨hmodel, rfl, rfl⟩
        obtain ⟨⟨ret, e', w'⟩, hrun⟩ := runTensors_ok w env hmodel inputTensors outputTensors
        rw [hrun]
        cases ret with
        | success => exact ⟨_, rfl⟩
        | _ => exact ⟨_, rfl⟩
      · have hnone : e.preparedModel = none := Option.not_isSome_iff_eq_none.mp hmodel
        rw [runTensors, hnone]
        exact iff_of_false (not_answersWith_error _) fun hall => nomatch hall.1

theorem dimRangeAt_success_iff (inputIndex : Nat) :
    (e.dimRangeAt inputIndex).1 = .success ↔ e.RangeCached inputIndex := by
  unfold dimRangeAt RangeCached
  cases e.minInputDimsVec[inputIndex]? with
  | none => simp
  | some mins =>
    cases e.maxInputDimsVec[inputIndex]? with
    | none => simp
    | some maxs =>
      by_cases hlen : mins.length = maxs.length
      · simp [hlen]
      · simp [hlen]

theorem getInputDimRange_answers_iff (inputIndex : Nat) (args : DimRangeArgs) :
    e.AnswersWith (ExecutorCall.perform e w env (.getInputDimRange inputIndex args)) ↔
      e.GuardedDimRange inputIndex args := by
  unfold ExecutorCall.perform
  dsimp only
  by_cases hmodel : e.preparedModel.isSome
  · obtain ⟨⟨ret, e', range⟩, hrange⟩ := getInputDimRange_ok hmodel env inputIndex args
    rw [hrange]
    exact iff_of_true ((answersWith_loaded hmodel).mpr ⟨_, rfl⟩) (Or.inl hmodel)
  have hnone : e.preparedModel = none := Option.not_isSome_iff_eq_none.mp hmodel
  unfold getInputDimRange GuardedDimRange
  cases hmin : args.minInputDims with
  | false => exact iff_of_true (answersWith_ret nofun) (Or.inr (Or.inl rfl))
  | true =>
    cases hmax : args.maxInputDims with
    | false => exact iff_of_true (answersWith_ret nofun) (Or.inr (Or.inr (Or.inl rfl)))
    | true =>
      cases hnum : args.shapeNum with
      | false =>
        exact iff_of_true (answersWith_ret nofun) (Or.inr (Or.inr (Or.inr (Or.inl rfl))))
      | true =>
        cases hvec : e.minInputDimsVec with
        | nil =>
          have hask : e.getInputDimVec env = .error (.nullDeref .preparedModel) := by
            rw [getInputDimVec, hnone]
          rw [hask]
          simp [hmodel, not_answersWith_error]
        | cons mins minDims =>
          -- The cached ranges are looked at without the model.
          have hcached := dimRangeAt_success_iff (e := e) inputIndex
          dsimp only [List.isEmpty_cons, Bool.not_true, Bool.false_eq_true, if_false]
          by_cases hret : (e.dimRangeAt inputIndex).1 = .success
          · rw [hret]
            simp [hmodel, answersWith_success hnone, hcached.mp hret]
          · simp [hcached.not.mp hret, answersWith_ret hret]

end Inputs

/-! ## The loops of a synchronous run -/

section Loops

variable {w : World} {tensors : List NNTensor2_0}

theorem endsAt_some_iff {address : Nat} {t : NNTensor2_0} (ht : tensors[address]? = some t)
    {mins maxs : List UInt32} :
    EndsAt tensors (some address) mins maxs ↔ ∀ desc, t.tensorDesc = some desc →
      RangedShape.Within ⟨desc.shape, mins, maxs⟩ ∨ RangedShape.Refused ⟨desc.shape, mins, maxs⟩ := by
  constructor
  · intro hends
    obtain ⟨t', ht', hall⟩ := hends address rfl
    cases ht.symm.trans ht'
    exact hall
  · rintro hall _ ⟨⟩
    exact ⟨t, ht, hall⟩

theorem passesAt_some_iff {address : Nat} {t : NNTensor2_0} (ht : tensors[address]? = some t)
    {mins maxs : List UInt32} :
    PassesAt tensors (some address) mins maxs ↔
      ∃ desc, t.tensorDesc = some desc ∧ RangedShape.Within ⟨desc.shape, mins, maxs⟩ := by
  constructor
  · rintro ⟨_, t', desc, ⟨⟩, ht', hdesc, hwithin⟩
    cases ht.symm.trans ht'
    exact ⟨desc, hdesc, hwithin⟩
  · rintro ⟨desc, hdesc, hwithin⟩
    exact ⟨address, t, desc, rfl, ht, hdesc, hwithin⟩

theorem checkInputsLoop_returns_iff (w : World) (inputs : List (Option Nat))
    (minDims maxDims : List (List UInt32)) :
    (∃ ret, checkInputsLoop w inputs minDims maxDims = .ok ret) ↔
      ChecksEnd w.tensors inputs minDims maxDims := by
  induction inputs generalizing minDims maxDims with
  | nil => exact iff_of_true ⟨_, rfl⟩ trivial
  | cons input inputs ih =>
    cases minDims with
    | nil => exact iff_of_true ⟨_, rfl⟩ trivial
    | cons mins minDims =>
      cases maxDims with
      | nil => exact iff_of_true ⟨_, rfl⟩ trivial
      | cons maxs maxDims =>
        show _ ↔ EndsAt w.tensors input mins maxs ∧
          (PassesAt w.tensors input mins maxs → ChecksEnd w.tensors inputs minDims maxDims)
        cases input with
        | none =>
          refine iff_of_true ⟨_, rfl⟩ ⟨fun address heq => (by cases heq), ?_⟩
          rintro ⟨_, _, _, heq, _⟩
          cases heq
        | some address =>
          rw [checkInputsLoop]
          cases ht : w.tensors[address]? with
          | none =>
            refine iff_of_false not_exists_ok_error fun hboth => ?_
            obtain ⟨t, ht', -⟩ := hboth.1 address rfl
            rw [ht] at ht'
            cases ht'
          | some t =>
            rw [endsAt_some_iff ht, passesAt_some_iff ht]
            dsimp only [checkDimRanges]
            cases t.tensorDesc with
            | none =>
              refine iff_of_true ⟨_, rfl⟩ ⟨fun desc hdesc => (by cases hdesc), ?_⟩
              rintro ⟨_, hdesc, _⟩
              cases hdesc
            | some desc =>
              simp only [Option.some.injEq, forall_eq', exists_eq_left']
              -- The dimensions are good, or refused, or one of them has no range.
              rcases dimsWithin_ends desc.shape mins maxs with ⟨hloop, hwithin⟩ |
                ⟨hloop, hrefused⟩ | ⟨hloop, hwithin, hrefused⟩
              · rw [hloop]
                dsimp only
                rw [ih minDims maxDims]
                exact ⟨fun hrest => ⟨Or.inl hwithin, fun _ => hrest⟩, fun hboth => hboth.2 hwithin⟩
              · rw [hloop]
                exact iff_of_true ⟨_, rfl⟩ ⟨Or.inr hrefused, fun hwithin =>
                  absurd hwithin (RangedShape.not_within_of_refused hrefused)⟩
              · rw [hloop]
                exact iff_of_false not_exists_ok_error fun hboth =>
                  hboth.1.elim hwithin hrefused

theorem checkInputDimRanges_returns_iff {e : NNExecutor} (hmodel : e.preparedModel.isSome)
    (w : World) (env : ExecutorEnv) (inputTensors : List (Option Nat)) :
    (∃ ret, e.checkInputDimRanges w env inputTensors = .ok ret) ↔
      ChecksInside w env inputTensors := by
  obtain ⟨model, hmodel⟩ := Option.isSome_iff_exists.mp hmodel
  unfold checkInputDimRanges ChecksInside
  rw [hmodel]
  dsimp only
  by_cases hasked : env.dimRanges.code = .success
  · rw [if_neg (not_not.mpr hasked)]
    by_cases hmins : inputTensors.length = env.dimRanges.minInputDims.length
    · rw [if_neg (not_not.mpr hmins)]
      by_cases hmaxs : inputTensors.length = env.dimRanges.maxInputDims.length
      · rw [if_neg (not_not.mpr hmaxs), checkInputsLoop_returns_iff]
        exact ⟨fun hends _ _ _ => hends, fun hall => hall hasked hmins hmaxs⟩
      · rw [if_pos hmaxs]
        exact iff_of_true ⟨_, rfl⟩ fun _ _ hmaxs' => absurd hmaxs' hmaxs
    · rw [if_pos hmins]
      exact iff_of_true ⟨_, rfl⟩ fun _ hmins' => absurd hmins' hmins
  · rw [if_pos hasked]
    exact iff_of_true ⟨_, rfl⟩ fun hasked' => absurd hasked' hasked

/-- What ends does so whatever the shapes of the tensors are. -/
theorem outputsEnd_congr {tensors' : List NNTensor2_0} (hlength : tensors'.length = tensors.length)
    (hdescribed : ∀ address, Described tensors' address ↔ Described tensors address) (count : Nat)
    (addresses : List Nat) (outputsDims : List (List Int32)) :
    OutputsEnd tensors' count addresses outputsDims ↔
      OutputsEnd tensors count addresses outputsDims := by
  induction addresses generalizing count outputsDims with
  | nil => exact Iff.rfl
  | cons address addresses ih =>
    cases outputsDims with
    | nil => exact Iff.rfl
    | cons dims outputsDims =>
      rw [OutputsEnd, OutputsEnd, ih, hdescribed address, hlength]

theorem setSyncDims_returns_iff (w : World) (addresses : List Nat) (refs : DescRefs)
    (outputsDims : List (List Int32)) :
    (∃ result, setSyncDims w addresses refs outputsDims = .ok result) ↔
      OutputsEnd w.tensors refs.length addresses outputsDims := by
  induction addresses generalizing w refs outputsDims with
  | nil => exact iff_of_true ⟨_, rfl⟩ trivial
  | cons address addresses ih =>
    cases outputsDims with
    | nil => exact iff_of_true ⟨_, rfl⟩ trivial
    | cons dims outputsDims =>
      rw [setSyncDims, OutputsEnd]
      cases hshape : setTensorShape w address dims with
      | error fault =>
        refine iff_of_false not_exists_ok_error fun hboth => ?_
        unfold setTensorShape at hshape
        rw [List.getElem?_eq_getElem hboth.1] at hshape
        dsimp only at hshape
        split at hshape
        · cases hshape
        split at hshape
        · cases hshape
        · cases hshape
      | ok shaped =>
        obtain ⟨ret, w₁⟩ := shaped
        have hlt : address < w.tensors.length := by
          unfold setTensorShape at hshape
          split at hshape
          · cases hshape
          · rename_i t ht
            exact (List.getElem?_eq_some_iff.mp ht).1
        by_cases hret : ret = .success
        · subst hret
          obtain ⟨t, desc, desc', ht, hdesc, hset, htensors⟩ := setTensorShape_success hshape
          have haccepted : ShapeAccepted dims := by
            by_contra hnot
            rw [setShape_notAccepted hnot] at hset
            cases hset
          have hdescribed : Described w.tensors address := by
            rw [Described, ht]
            show t.tensorDesc.isSome
            rw [hdesc]
            rfl
          cases refs with
          | nil =>
            refine iff_of_false not_exists_ok_error fun hboth => ?_
            exact absurd (hboth.2 hdescribed haccepted).1 (Nat.lt_irrefl 0)
          | cons ref refs =>
            obtain ⟨desc₁, hdesc₁⟩ := setShape_accepted (w₁.desc ref.1) haccepted
            dsimp only
            rw [hdesc₁]
            dsimp only
            rw [ih]
            have hlength : w₁.tensors.length = w.tensors.length := by
              rw [htensors, List.length_set]
            have hsame : ∀ other, Described w₁.tensors other ↔ Described w.tensors other :=
              fun other => described_setTensorShape hshape
            show OutputsEnd w₁.tensors refs.length addresses outputsDims ↔ _
            rw [outputsEnd_congr hlength hsame, List.length_cons, Nat.add_sub_cancel]
            exact ⟨fun hrest => ⟨hlt, fun _ _ => ⟨Nat.succ_pos _, hrest⟩⟩,
              fun hboth => (hboth.2 hdescribed haccepted).2⟩
        · -- The loop ends at the first tensor that does not take its dimensions.
          have hnot := (setTensorShape_refused hshape hret).2
          refine iff_of_true ?_ ⟨hlt, fun hdescribed haccepted =>
            absurd ⟨hdescribed, haccepted⟩ hnot⟩
          cases ret with
          | success => exact absurd rfl hret
          | _ => exact ⟨_, rfl⟩

theorem setAippDims_returns_iff (w : World) (refs : DescRefs) (outputsDims : List (List Int32)) :
    (∃ result, setAippDims w refs outputsDims = .ok result) ↔
      ((∀ dims ∈ outputsDims.take refs.length, ShapeAccepted dims) →
        outputsDims.length ≤ refs.length) := by
  induction outputsDims generalizing w refs with
  | nil =>
    unfold setAippDims
    exact iff_of_true ⟨_, rfl⟩ fun _ => Nat.zero_le _
  | cons dims outputsDims ih =>
    unfold setAippDims
    cases refs with
    | nil =>
      exact iff_of_false not_exists_ok_error fun hall =>
        absurd (hall (by simp)) (Nat.not_succ_le_zero _)
    | cons ref refs =>
      dsimp only
      rw [List.length_cons, List.take_succ_cons, List.forall_mem_cons, List.length_cons,
        Nat.add_le_add_iff_right]
      by_cases haccepted : ShapeAccepted dims
      · obtain ⟨desc, hdesc⟩ := setShape_accepted (w.desc ref.1) haccepted
        rw [hdesc]
        dsimp only
        rw [ih, and_iff_right haccepted]
      · rw [setShape_notAccepted haccepted]
        exact iff_of_true ⟨_, rfl⟩ fun hboth => absurd hboth.1 haccepted

end Loops

/-! ## Synchronous runs with a model -/

section Runs

variable {e : NNExecutor} (w : World) (env : ExecutorEnv)
  {inputTensors outputTensors : List (Option Nat)}

theorem exists_map_some {tensors : List (Option Nat)} (h : none ∉ tensors) :
    ∃ addresses, tensors.mapM id = some addresses ∧ tensors = addresses.map some := by
  cases haddresses : tensors.mapM id with
  | none => exact absurd (none_mem_of_mapM_id haddresses) h
  | some addresses => exact ⟨addresses, rfl, mapM_id_eq_some haddresses⟩

/-- **A run of the tensors** comes to an end exactly if its two loops do. -/
theorem tensorsWith_returns_iff {setDims : SetDims} (hmodel : e.preparedModel.isSome) :
    (∃ result, e.tensorsWith setDims w env inputTensors outputTensors = .ok result) ↔
      ChecksInside w env inputTensors ∧ (DeviceAnswers w env inputTensors outputTensors →
        ∀ inputs outputs, inputTensors = inputs.map some → outputTensors = outputs.map some →
          ∃ result, setDims (askDevice w inputs outputs) outputs e.outputTensorDescs
            env.run.outputsDims = .ok result) := by
  have hchecks := checkInputDimRanges_returns_iff hmodel w env inputTensors
  have hpassed := @checkInputDimRanges_passed_iff e w env inputTensors hmodel
  obtain ⟨model, hsome⟩ := Option.isSome_iff_exists.mp hmodel
  unfold tensorsWith
  cases hcheck : e.checkInputDimRanges w env inputTensors with
  | error fault =>
    rw [hcheck] at hchecks
    exact iff_of_false not_exists_ok_error fun hboth => nomatch hchecks.mpr hboth.1
  | ok ret =>
    rw [hcheck] at hchecks hpassed
    rw [and_iff_right (hchecks.mp ⟨ret, rfl⟩)]
    dsimp only
    by_cases hrange : ret ≠ .operationForbidden ∧ ret ≠ .success
    · rw [if_pos hrange]
      refine iff_of_true ⟨_, rfl⟩ fun hanswers => ?_
      rcases hpassed.mpr hanswers.inRanges with heq | heq
      · exact absurd (Except.ok.inj heq) hrange.1
      · exact absurd (Except.ok.inj heq) hrange.2
    rw [if_neg hrange]
    have hin : InRanges w env inputTensors := by
      apply hpassed.mp
      rw [Except.ok.injEq, Except.ok.injEq]
      by_contra hneither
      exact hrange (not_or.mp hneither)
    by_cases hinputs : none ∉ inputTensors
    · obtain ⟨inputs, hmapInputs, hinputsEq⟩ := exists_map_some hinputs
      by_cases houtputs : none ∉ outputTensors
      · obtain ⟨outputs, hmapOutputs, houtputsEq⟩ := exists_map_some houtputs
        rw [hmapInputs, hmapOutputs, hsome]
        dsimp only
        by_cases hcode : env.run.code = .success
        · rw [if_neg (not_not.mpr hcode)]
          by_cases hlength : env.run.outputsDims.length = outputTensors.length
          · rw [if_neg (not_not.mpr hlength)]
            -- The device has answered, and only the loop over the dimensions is left.
            have hanswers : DeviceAnswers w env inputTensors outputTensors :=
              ⟨hin, hinputs, houtputs, hcode, hlength⟩
            constructor
            · rintro hreturns - inputs' outputs' hinputs' houtputs'
              obtain rfl : inputs' = inputs := List.map_injective_iff.mpr
                (Option.some_injective _) (hinputs'.symm.trans hinputsEq)
              obtain rfl : outputs' = outputs := List.map_injective_iff.mpr
                (Option.some_injective _) (houtputs'.symm.trans houtputsEq)
              cases hdims : setDims (askDevice w inputs' outputs') outputs' e.outputTensorDescs
                  env.run.outputsDims with
              | ok result => exact ⟨_, rfl⟩
              | error fault =>
                rw [hdims] at hreturns
                obtain ⟨_, heq⟩ := hreturns
                cases heq
            · intro hall
              obtain ⟨⟨ret', w'⟩, hdims⟩ := hall hanswers inputs outputs hinputsEq houtputsEq
              rw [hdims]
              cases ret' with
              | success => exact ⟨_, rfl⟩
              | _ => exact ⟨_, rfl⟩
          · rw [if_pos hlength]
            exact iff_of_true ⟨_, rfl⟩ fun hanswers => absurd hanswers.answers.2 hlength
        · rw [if_pos hcode]
          exact iff_of_true ⟨_, rfl⟩ fun hanswers => absurd hanswers.answers.1 hcode
      · rw [hmapInputs]
        cases hmap : outputTensors.mapM id with
        | some outputs => exact absurd (none_not_mem_of_mapM_id hmap) houtputs
        | none => exact iff_of_true ⟨_, rfl⟩ fun hanswers => absurd hanswers.outputs houtputs
    · cases hmap : inputTensors.mapM id with
      | some inputs => exact absurd (none_not_mem_of_mapM_id hmap) hinputs
      | none => exact iff_of_true ⟨_, rfl⟩ fun hanswers => absurd hanswers.inputs hinputs

theorem runSyncTensors_returns_iff (hmodel : e.preparedModel.isSome) :
    (∃ result, e.runSyncTensors w env inputTensors outputTensors = .ok result) ↔
      SyncInside w env inputTensors outputTensors e.outputTensorDescs.length := by
  rw [runSyncTensors_eq, tensorsWith_returns_iff w env hmodel]
  unfold SyncInside
  refine and_congr_right fun _ => forall_congr' fun hanswers => ?_
  obtain ⟨inputs, -, hinputs⟩ := exists_map_some hanswers.inputs
  constructor
  · intro hall outputs houtputs
    exact (setSyncDims_returns_iff (askDevice w inputs outputs) _ _ _).mp
      (hall inputs outputs hinputs houtputs)
  · intro hall inputs' outputs _ houtputs
    exact (setSyncDims_returns_iff _ _ _ _).mpr (hall outputs houtputs)

theorem runAippTensors_returns_iff (hmodel : e.preparedModel.isSome) :
    (∃ result, e.runAippTensors w env inputTensors outputTensors = .ok result) ↔
      AippInside w env inputTensors outputTensors e.outputTensorDescs.length := by
  unfold AippInside
  by_cases hset : env.setAippString = .success
  · rw [runAippTensors_eq e w env inputTensors outputTensors hset,
      tensorsWith_returns_iff w env hmodel]
    refine and_congr_right fun _ => forall_congr' fun hanswers => ?_
    rw [forall_prop_of_true hset]
    obtain ⟨inputs, -, hinputs⟩ := exists_map_some hanswers.inputs
    obtain ⟨outputs, -, houtputs⟩ := exists_map_some hanswers.outputs
    constructor
    · exact fun hall => (setAippDims_returns_iff _ _ _).mp (hall inputs outputs hinputs houtputs)
    · exact fun hall _ _ _ _ => (setAippDims_returns_iff _ _ _).mpr hall
  · -- Without the string the device is not asked.
    have hreturns := checkInputDimRanges_returns_iff hmodel w env inputTensors
    rw [← hreturns]
    obtain ⟨model, hsome⟩ := Option.isSome_iff_exists.mp hmodel
    unfold runAippTensors
    cases e.checkInputDimRanges w env inputTensors with
    | error fault =>
      exact iff_of_false not_exists_ok_error fun hboth => by
        obtain ⟨_, heq⟩ := hboth.1
        cases heq
    | ok ret =>
      refine iff_of_true ?_ ⟨⟨ret, rfl⟩, fun _ hset' => absurd hset' hset⟩
      dsimp only
      split
      · exact ⟨_, rfl⟩
      · have hrun : ∃ ret', e.runAippModel w env inputTensors outputTensors = .ok (ret', e, w) := by
          unfold runAippModel
          rw [hsome]
          split
          · dsimp only
            rw [if_pos hset]
            exact ⟨_, rfl⟩
          · exact ⟨_, rfl⟩
        obtain ⟨ret', hrun⟩ := hrun
        rw [hrun]
        cases ret' with
        | success => exact ⟨_, rfl⟩
        | _ => exact ⟨_, rfl⟩

end Runs

/-- When a way of running the tensors comes to an end: `inside` tells it of the world and
the number of descriptions of outputs. -/
structure RunsInside (runTensors : NNExecutor → World → Outcome)
    (inside : World → Nat → Prop) : Prop extends NeedsModel runTensors where
  returns : ∀ e w, e.preparedModel.isSome →
    ((∃ result, runTensors e w = .ok result) ↔ inside w e.outputTensorDescs.length)
  tensors : ∀ w w' count, w'.tensors = w.tensors → (inside w' count ↔ inside w count)

section Tensors

variable {w w' : World} {env : ExecutorEnv} {inputTensors outputTensors : List (Option Nat)}

theorem checksInside_tensors (h : w'.tensors = w.tensors) :
    ChecksInside w' env inputTensors ↔ ChecksInside w env inputTensors := by
  unfold ChecksInside
  rw [h]

theorem deviceAnswers_tensors (h : w'.tensors = w.tensors) :
    DeviceAnswers w' env inputTensors outputTensors ↔
      DeviceAnswers w env inputTensors outputTensors := by
  have hranges : InRanges w' env inputTensors ↔ InRanges w env inputTensors := by
    unfold InRanges
    rw [checkInputsLoop_tensors h]
  constructor
  · rintro ⟨hin, hinputs, houtputs, hanswers⟩
    exact ⟨hranges.mp hin, hinputs, houtputs, hanswers⟩
  · rintro ⟨hin, hinputs, houtputs, hanswers⟩
    exact ⟨hranges.mpr hin, hinputs, houtputs, hanswers⟩

theorem runsInside_sync : RunsInside (fun e w => e.runSyncTensors w env inputTensors outputTensors)
    (fun w => SyncInside w env inputTensors outputTensors) where
  toNeedsModel := needsModel_runSyncTensors env inputTensors outputTensors
  returns _ w hmodel := runSyncTensors_returns_iff w env hmodel
  tensors w w' count h := by
    unfold SyncInside
    rw [checksInside_tensors h, deviceAnswers_tensors h, h]

theorem runsInside_aipp : RunsInside (fun e w => e.runAippTensors w env inputTensors outputTensors)
    (fun w => AippInside w env inputTensors outputTensors) where
  toNeedsModel := needsModel_runAippTensors env inputTensors outputTensors
  returns _ w hmodel := runAippTensors_returns_iff w env hmodel
  tensors w w' count h := by
    unfold AippInside
    rw [checksInside_tensors h, deviceAnswers_tensors h]

end Tensors

/-! ## Reloads -/

section Reload

variable {e : NNExecutor} {w : World} {env : ReloadEnv}

/-- The end of `Reload`. -/
theorem reloadCaches_returns_iff {caches : List Buffer} :
    (∃ result, e.reloadCaches w env caches = .ok result) ↔
      cacheInputTensorDescOffset ≤ caches.length ∧
        ∀ fault, restoredDescs caches ≠ .error (.fault fault) := by
  unfold reloadCaches restoredDescs
  dsimp only
  by_cases hfew : caches.length < cacheInputTensorDescOffset
  · rw [if_pos hfew]
    exact iff_of_false not_exists_ok_error fun hboth => absurd hfew (Nat.not_lt.mpr hboth.1)
  rw [if_neg hfew, and_iff_right (Nat.not_lt.mp hfew)]
  cases deserializedTensorsFromMapped
      (((caches[caches.length - cacheInputTensorDescOffset]?).map Buffer.data).getD []) with
  | error stop =>
    cases stop with
    | fault fault => exact iff_of_false not_exists_ok_error fun hall => hall fault rfl
    | ret ret => exact iff_of_true ⟨_, rfl⟩ nofun
  | ok inputs =>
    rw [ok_bind]
    dsimp only
    cases deserializedTensorsFromMapped
        (((caches[caches.length - cacheOutputTensorDescOffset]?).map Buffer.data).getD []) with
    | error stop =>
      cases stop with
      | fault fault => exact iff_of_false not_exists_ok_error fun hall => hall fault rfl
      | ret ret => exact iff_of_true ⟨_, rfl⟩ nofun
    | ok outputs =>
      refine iff_of_true ?_ nofun
      dsimp only
      split
      · exact ⟨_, rfl⟩
      · exact ⟨_, rfl⟩

/-- **`Reload`** without a model comes to an end exactly in this case. -/
theorem reload_returns_iff (hnone : e.preparedModel = none) :
    (∃ result, e.reload w env = .ok result) ↔ e.ReloadReturns w env := by
  unfold ReloadReturns
  by_cases hpath : e.cachePath = ""
  · rw [reload, if_pos hpath]
    exact iff_of_true ⟨_, rfl⟩ fun hpath' => absurd hpath hpath'
  by_cases hversion : e.cacheVersion = invalidCacheVersion
  · rw [reload, if_neg hpath, if_pos hversion]
    exact iff_of_true ⟨_, rfl⟩ fun _ hversion' => absurd hversion hversion'
  rw [forall_prop_of_true hpath, forall_prop_of_true hversion]
  cases hbackend : env.cache.backend with
  | none =>
    refine iff_of_true ?_ nofun
    rw [reload, if_neg hpath, if_neg hversion, if_neg (by rw [hnone]; nofun), hbackend]
    exact ⟨_, rfl⟩
  | some device =>
    cases device with
    | none =>
      refine iff_of_true ?_ nofun
      rw [reload, if_neg hpath, if_neg hversion, if_neg (by rw [hnone]; nofun), hbackend]
      exact ⟨_, rfl⟩
    | some reply =>
      rw [e.reload_eq hpath hversion hnone hbackend w]
      simp only [Option.some.injEq, forall_eq']
      cases (e.reloadStore reply).restore env.cache.codec env.cache.io env.fs e.cachePath
          e.cacheVersion [] w.mappings with
      | error fault =>
        exact iff_of_false not_exists_ok_error fun ⟨_, _, _, heq, _⟩ => nomatch heq
      | ok restored =>
        obtain ⟨ret, caches, mappings⟩ := restored
        dsimp only
        by_cases hret : ret = .success
        · rw [if_neg (not_not.mpr hret), reloadCaches_returns_iff]
          constructor
          · exact fun hboth => ⟨ret, caches, mappings, rfl, fun _ => hboth⟩
          · rintro ⟨_, _, _, heq, hall⟩
            cases heq
            exact hall hret
        · rw [if_pos hret]
          exact iff_of_true ⟨_, rfl⟩ ⟨ret, caches, mappings, rfl, fun hsuccess => absurd hsuccess hret⟩

/-- **`Reload`** returns an error exactly in this case. -/
theorem reload_refuses_iff (hnone : e.preparedModel = none) :
    (∃ ret e' w', ret ≠ .success ∧ e.reload w env = .ok (ret, e', w')) ↔ e.ReloadRefuses w env := by
  constructor
  · rintro ⟨ret, e', w', hret, hreload⟩
    refine ⟨(reload_returns_iff hnone).mp ⟨_, hreload⟩, fun hasks hprepare => hret ?_⟩
    rcases reload_asked hnone hreload with ⟨hnot, -, -⟩ | ⟨-, heq, -⟩
    · exact absurd hasks hnot
    · exact heq.trans hprepare
  · rintro ⟨hreturns, hrefused⟩
    obtain ⟨⟨ret, e', w'⟩, hreload⟩ := (reload_returns_iff hnone).mpr hreturns
    refine ⟨ret, e', w', fun hret => ?_, hreload⟩
    rcases reload_asked hnone hreload with ⟨-, hne, -⟩ | ⟨hasks, heq, -⟩
    · exact hne hret
    · exact hrefused hasks (heq.symm.trans hret)

theorem reloadRefuses_handler (handler : Option Nat) :
    ({ e with autoUnloadHandler := handler } : NNExecutor).ReloadRefuses w env ↔
      e.ReloadRefuses w env :=
  Iff.rfl

variable {runTensors : NNExecutor → World → Outcome} {inside : World → Nat → Prop}

/-- **A run that has to restore the model first.** -/
theorem reloadAndRun_answers_iff (hruns : RunsInside runTensors inside)
    (hnone : e.preparedModel = none) :
    e.AnswersWith (reloadAndRun runTensors e w env) ↔
      e.ReloadRefuses w env ∨ ∃ count, e.Restores w env count ∧ inside w count := by
  have hrestores := fun count => @autoReload_restores_iff e w env count hnone
  unfold reloadAndRun
  cases hauto : e.autoReload w env with
  | error fault =>
    refine iff_of_false (not_answersWith_error fault) ?_
    rintro (hrefuses | ⟨count, hcount, -⟩)
    · obtain ⟨ret, e', w', hret, hreload⟩ := (reload_refuses_iff hnone).mpr hrefuses
      unfold autoReload at hauto
      rw [hreload] at hauto
      cases ret with
      | success => exact hret rfl
      | _ => cases hauto
    · obtain ⟨e₁, w₁, hok, -⟩ := (hrestores count).mp hcount
      cases hauto.symm.trans hok
  | ok reloaded =>
    obtain ⟨ret, e', w'⟩ := reloaded
    by_cases hret : ret = .success
    · subst hret
      obtain ⟨hreload, -⟩ := autoReload_success hauto
      have hnot : ¬ e.ReloadRefuses w env := by
        rw [← reload_refuses_iff hnone]
        rintro ⟨ret₁, e₁, w₁, hne, heq⟩
        cases hreload.symm.trans heq
        exact hne rfl
      rw [or_iff_right hnot]
      dsimp only
      by_cases hloaded : e'.preparedModel.isSome
      · have hinside := hruns.returns e' w' hloaded
        rw [hruns.tensors w w' _ (reload_tensors hreload)] at hinside
        constructor
        · rintro ⟨ret₁, e₁, w₁, hrun, -⟩
          refine ⟨_, (hrestores _).mpr ⟨e', w', hauto, hloaded, rfl⟩, hinside.mp ⟨_, hrun⟩⟩
        · rintro ⟨count, hcount, hends⟩
          obtain ⟨e₁, w₁, heq, -, hlength⟩ := (hrestores count).mp hcount
          cases hauto.symm.trans heq
          rw [← hlength] at hends
          obtain ⟨⟨ret₁, e₁, w₁⟩, hrun⟩ := hinside.mpr hends
          refine ⟨ret₁, e₁, w₁, hrun, fun _ _ => ?_⟩
          rw [hruns.keeps _ _ _ _ _ hrun]
          exact hloaded
      · -- The device has answered success without a model.
        rw [hruns.unloaded e' w' (Option.not_isSome_iff_eq_none.mp hloaded)]
        refine iff_of_false (not_answersWith_error _) ?_
        rintro ⟨count, hcount, -⟩
        obtain ⟨e₁, w₁, heq, hsome, -⟩ := (hrestores count).mp hcount
        cases hauto.symm.trans heq
        exact hloaded hsome
    · obtain ⟨-, ret₁, hne, hreload⟩ := autoReload_failed hauto hret
      refine iff_of_true ?_ (Or.inl ((reload_refuses_iff hnone).mp ⟨ret₁, e', w', hne, hreload⟩))
      cases ret with
      | success => exact absurd rfl hret
      | _ => exact answersWith_ret hret

/-- **A synchronous run answers** exactly if it finds what it needs. -/
theorem syncWith_answers_iff (hruns : RunsInside runTensors inside) (e : NNExecutor) (w : World)
    (env : ReloadEnv) (inputTensors outputTensors : List (Option Nat)) :
    e.AnswersWith (syncWith runTensors e w env inputTensors outputTensors) ↔
      GuardedSync (inside w) e w env inputTensors outputTensors := by
  unfold syncWith GuardedSync
  cases hhandler : e.autoUnloadHandler with
  | none => exact iff_of_false (not_answersWith_error _) fun hboth => nomatch hboth.1
  | some tasks =>
    have hthere : (some tasks).isSome = true := rfl
    rw [and_iff_right hthere]
    dsimp only
    by_cases hinputs : e.inputTensorDescs.length ≠ inputTensors.length
    · rw [if_pos hinputs]
      exact iff_of_true (answersWith_ret nofun) (Or.inl hinputs)
    rw [if_neg hinputs, or_iff_right hinputs]
    by_cases houtputs : e.outputTensorDescs.length ≠ outputTensors.length
    · rw [if_pos houtputs]
      exact iff_of_true (answersWith_ret nofun) (Or.inl houtputs)
    rw [if_neg houtputs, or_iff_right houtputs]
    by_cases hmodel : e.preparedModel.isSome
    · have hnot : ¬ e.preparedModel = none := Option.isSome_iff_ne_none.mp hmodel
      rw [if_pos hmodel, answersWith_loaded hmodel]
      have hreturns := hruns.returns { e with autoUnloadHandler := some 0 } w hmodel
      rw [hreturns]
      constructor
      · exact fun hinside => Or.inl ⟨hmodel, hinside⟩
      · rintro (⟨-, hinside⟩ | ⟨hnone, -⟩)
        · exact hinside
        · exact absurd hnone hnot
    · have hnone : e.preparedModel = none := Option.not_isSome_iff_eq_none.mp hmodel
      rw [if_neg hmodel, or_iff_right fun hboth => hmodel hboth.1, and_iff_right hnone]
      have hreload := @reloadAndRun_answers_iff { e with autoUnloadHandler := some 0 } w env
        runTensors inside hruns hnone
      simp only [reloadRefuses_handler, restores_handler] at hreload
      exact hreload

end Reload

/-! ## Every call -/

/-- No call leaves an input without its tensor. -/
theorem step_noHollow {s s' : NNExecutor × World} {call : ExecutorEnv × ExecutorCall}
    (hhollow : NoHollow s.1.inputTensors) (h : step s call = .ok s') :
    NoHollow s'.1.inputTensors := by
  obtain ⟨e, w⟩ := s
  obtain ⟨e', w'⟩ := s'
  obtain ⟨env, call⟩ := call
  obtain ⟨ret, hperform⟩ := step_eq_ok h
  have hput : ∀ index x, x.tensor.isSome → NoHollow (e.putInput index x).inputTensors := by
    intro index x hx i y hy
    by_cases hi : i = index
    · subst hi
      rw [putInput, AList.lookup_insert] at hy
      cases hy
      exact hx
    · rw [putInput, AList.lookup_insert_ne hi] at hy
      exact hhollow i y hy
  cases call with
  | setInput index nnTensor buffer length =>
    cases setInput_inputSet hperform with
    | refused => exact hhollow
    | uncopied => exact hhollow
    | discarded => exact hhollow
    | reused => exact hput _ _ rfl
    | stored => exact hput _ _ rfl
  | setInputFromMemory index nnTensor memory =>
    cases setInputFromMemory_inputMemorySet hperform with
    | refused => exact hhollow
    | stored => exact hput _ _ rfl
  | setOutput index buffer length =>
    rw [(setOutput_outputSet hperform).rest.1]
    exact hhollow
  | setOutputFromMemory index memory =>
    rw [(setOutputFromMemory_outputMemorySet hperform).rest.1]
    exact hhollow
  | run =>
    cases run_ran hperform with
    | refused => exact hhollow
    | failed => exact hhollow
    | dims hinputs houtputs hdims =>
      rw [(setOutputDims_sameBuffers (aligned_of_tensorsOf houtputs) hdims).1.rest]
      exact hhollow
    | copied hdescs hinputs houtputs hcode hlength hdims =>
      rw [(setOutputDims_sameBuffers (aligned_of_tensorsOf houtputs) hdims).1.rest]
      exact hhollow
  | createInputMemory | createOutputMemory | destroyInputMemory | destroyOutputMemory | runSync
  | runSyncWithAipp | getInputDimRange | setExtensionConfig | deinitModel | autoUnload
  | destroyPreparedModel =>
    have hquiet : Quiet (e, w) (e', w') := by
      refine perform_quiet ?_ hperform
      exact fun hsets => hsets
    rw [hquiet.inputTensors]
    exact hhollow

/-- **One call answers** exactly if it is guarded. -/
theorem answers_iff_guarded (s : NNExecutor × World) (call : ExecutorEnv × ExecutorCall)
    (hhollow : NoHollow s.1.inputTensors) : Answers s call ↔ Guarded s call := by
  obtain ⟨e, w⟩ := s
  obtain ⟨env, call⟩ := call
  cases call with
  | setInput index nnTensor buffer length => exact setInput_answers_iff w env hhollow _ _ _ _
  | setInputFromMemory index nnTensor memory =>
    exact setInputFromMemory_answers_iff w env hhollow _ _ _
  | run => exact run_answers_iff w env
  | getInputDimRange inputIndex args => exact getInputDimRange_answers_iff w env _ _
  | runSync reloadEnv inputTensors outputTensors =>
    exact syncWith_answers_iff runsInside_sync e w reloadEnv _ _
  | runSyncWithAipp reloadEnv inputTensors outputTensors =>
    exact syncWith_answers_iff runsInside_aipp e w reloadEnv _ _
  | _ => exact Iff.rfl

/-- **Every call of a run answers**, from the constructor on, iff every call of it is
guarded. -/
theorem calls_answer_iff (c : NNCompiler Nat) (preparedModel : PreparedModel) (w : World)
    (calls : List (ExecutorEnv × ExecutorCall)) :
    Run.Meets step Answers (NNExecutor.create c preparedModel, w) calls ↔
      Run.Meets step Guarded (NNExecutor.create c preparedModel, w) calls :=
  Run.meets_congr_of_invariant (P := fun s => NoHollow s.1.inputTensors)
    (fun s call hhollow => answers_iff_guarded s call hhollow)
    (fun _ _ _ hhollow _ hstep => step_noHollow hhollow hstep)
    (filled_create c preparedModel).inputs.noHollow calls

/-- The unload task comes due, and then the user sets the input. -/
def unloadedInput : List (ExecutorEnv × ExecutorCall) :=
  [({ hasCache := true }, .autoUnload),
    ({}, .setInput 0 { dataType := some .float32, dimensions := .array [2] }
      (some (List.replicate 8 0)) 8)]

/-- **An input set after the model is unloaded** dereferences the null pointer. -/
theorem unloadedInput_not_answers : ∃ e,
    ((smallCompiler [2]).share {}).1.createExecutor true = some e ∧
      ¬ Run.Meets step Answers (e, ((smallCompiler [2]).share {}).2) unloadedInput := by
  refine ⟨_, rfl, ?_⟩
  rintro ⟨-, h⟩
  exact not_answersWith_error (.nullDeref .preparedModel) (h _ rfl).1

end NNExecutor

end NNRt
