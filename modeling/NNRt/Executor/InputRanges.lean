import NNRt.Executor.Reload
import NNRt.Executor.Sync

/-!
# The ranges of the inputs

`GetInputDimRange` asks the device once and keeps the answer, which it recognises by its not
being empty. The answer is kept range by range while it is still being looked at.

- `pushDimRanges_whole`, `pushDimRanges_broken`: what is kept of an answer.
- `kept_step`: what is kept is a whole answer, or nothing, as long as no answer breaks off.
- `independent_iff`: **in every run, what a call returns is of a whole answer, and a failure
  keeps nothing, exactly if no answer that is asked for breaks off.**
-/

namespace NNRt

namespace DimRanges

/-- The two ranks of an input agree. -/
def SameRank (mins maxs : List UInt32) : Prop :=
  mins.length = maxs.length

/-- Valid as a whole: as many minima as maxima, of equal ranks. -/
def Whole (answer : DimRanges) : Prop :=
  answer.code = .success ∧ List.Forall₂ SameRank answer.minInputDims answer.maxInputDims

/-- The ranges of all inputs, as they are kept. -/
def lists (answer : DimRanges) : List (List Nat) × List (List Nat) :=
  (answer.minInputDims.map (List.map UInt32.toNat), answer.maxInputDims.map (List.map UInt32.toNat))

/-- The ranges of an input. -/
def at? (answer : DimRanges) (inputIndex : Nat) : Option (List Nat × List Nat) :=
  match answer.minInputDims[inputIndex]?, answer.maxInputDims[inputIndex]? with
  | some mins, some maxs => some (mins.map UInt32.toNat, maxs.map UInt32.toNat)
  | _, _ => none

/-- The first ranges are good, and later ones are not. -/
def BreaksOff (answer : DimRanges) : Prop :=
  answer.code = .success ∧ answer.minInputDims.length = answer.maxInputDims.length ∧
    (∃ mins ∈ answer.minInputDims.head?, ∃ maxs ∈ answer.maxInputDims.head?, SameRank mins maxs) ∧
    ¬ List.Forall₂ SameRank answer.minInputDims answer.maxInputDims

end DimRanges

namespace NNExecutor

open DimRanges (SameRank)

variable {e e' : NNExecutor} {w w' : World} {ret : ReturnCode}

/-! ## What is kept of an answer -/

/-- What the executor keeps of the ranges. -/
def ranges (e : NNExecutor) : List (List Nat) × List (List Nat) :=
  (e.minInputDimsVec, e.maxInputDimsVec)

/-- One more range is kept. -/
def keepRange (e : NNExecutor) (mins maxs : List UInt32) : NNExecutor :=
  { e with
    minInputDimsVec := e.minInputDimsVec ++ [mins.map UInt32.toNat]
    maxInputDimsVec := e.maxInputDimsVec ++ [maxs.map UInt32.toNat] }

theorem pushDimRanges_cons (e : NNExecutor) (mins maxs : List UInt32)
    (minDims maxDims : List (List UInt32)) :
    e.pushDimRanges (mins :: minDims) (maxs :: maxDims) =
      if mins.length ≠ maxs.length then (.invalidParameter, e)
      else (e.keepRange mins maxs).pushDimRanges minDims maxDims :=
  rfl

/-- A whole answer is kept. -/
theorem pushDimRanges_whole {minDims maxDims : List (List UInt32)}
    (h : List.Forall₂ SameRank minDims maxDims) :
    e.pushDimRanges minDims maxDims = (.success, { e with
      minInputDimsVec := e.minInputDimsVec ++ minDims.map (List.map UInt32.toNat)
      maxInputDimsVec := e.maxInputDimsVec ++ maxDims.map (List.map UInt32.toNat) }) := by
  induction h generalizing e with
  | nil => simp [pushDimRanges]
  | @cons mins maxs minDims maxDims hrank _ ih =>
    have hlength : mins.length = maxs.length := hrank
    rw [pushDimRanges_cons, if_neg (not_not.mpr hlength), ih]
    simp [keepRange]

/-- Nothing is taken away. -/
theorem length_le_pushDimRanges (e : NNExecutor) (minDims maxDims : List (List UInt32)) :
    e.minInputDimsVec.length ≤ (e.pushDimRanges minDims maxDims).2.minInputDimsVec.length := by
  induction minDims generalizing e maxDims with
  | nil => exact le_rfl
  | cons mins minDims ih =>
    cases maxDims with
    | nil => exact le_rfl
    | cons maxs maxDims =>
      rw [pushDimRanges_cons]
      split
      · exact le_rfl
      · refine le_trans ?_ (ih (e.keepRange mins maxs) maxDims)
        show e.minInputDimsVec.length ≤ (e.minInputDimsVec ++ [_]).length
        rw [List.length_append]
        exact Nat.le_add_right _ _

/-- An answer that is not whole is refused, and its beginning is kept if it is good. -/
theorem pushDimRanges_broken (e : NNExecutor) {minDims maxDims : List (List UInt32)}
    (hlength : minDims.length = maxDims.length) (h : ¬ List.Forall₂ SameRank minDims maxDims) :
    (e.pushDimRanges minDims maxDims).1 = .invalidParameter ∧
      ((e.pushDimRanges minDims maxDims).2.ranges = e.ranges ↔
        ¬ ∃ mins ∈ minDims.head?, ∃ maxs ∈ maxDims.head?, SameRank mins maxs) := by
  induction minDims generalizing e maxDims with
  | nil =>
    cases maxDims with
    | nil => exact absurd .nil h
    | cons maxs maxDims => cases hlength
  | cons mins minDims ih =>
    cases maxDims with
    | nil => cases hlength
    | cons maxs maxDims =>
      rw [pushDimRanges_cons]
      by_cases hrank : mins.length = maxs.length
      · rw [if_neg (not_not.mpr hrank)]
        have hrest : ¬ List.Forall₂ SameRank minDims maxDims := fun hrest => h (.cons hrank hrest)
        obtain ⟨hcode, -⟩ := ih (e.keepRange mins maxs) (Nat.succ.inj hlength) hrest
        refine ⟨hcode, iff_of_false (fun hsame => ?_) fun hno => ?_⟩
        · -- The first range is there, and it was not before.
          have hkept : ((e.keepRange mins maxs).pushDimRanges minDims maxDims).2.minInputDimsVec =
              e.minInputDimsVec := congrArg Prod.fst hsame
          have hlonger := length_le_pushDimRanges (e.keepRange mins maxs) minDims maxDims
          rw [hkept] at hlonger
          have happend : (e.keepRange mins maxs).minInputDimsVec.length =
              e.minInputDimsVec.length + 1 := List.length_append
          omega
        · exact hno ⟨mins, rfl, maxs, rfl, hrank⟩
      · rw [if_pos hrank]
        refine ⟨rfl, iff_of_true rfl ?_⟩
        rintro ⟨_, hmins, _, hmaxs, hsame⟩
        cases hmins
        cases hmaxs
        exact hrank hsame

/-! ## Calls that keep the ranges -/

theorem posted_ranges (e : NNExecutor) (ret : ReturnCode) : (e.posted ret).ranges = e.ranges := by
  unfold posted
  split <;> rfl

theorem tensorsWith_ranges {setDims : SetDims} {env : ExecutorEnv}
    {inputTensors outputTensors : List (Option Nat)}
    (h : e.tensorsWith setDims w env inputTensors outputTensors = .ok (ret, e', w')) :
    e'.ranges = e.ranges := by
  cases tensorsWith_ran h with
  | refused => rfl
  | failed => rfl
  | reported => exact posted_ranges e ret

theorem reload_ranges {env : ReloadEnv} (h : e.reload w env = .ok (ret, e', w')) :
    e'.ranges = e.ranges := by
  cases reload_reloaded h with
  | refused => rfl
  | unprepared => rfl
  | prepared => rfl

theorem autoReload_ranges {env : ReloadEnv} (h : e.autoReload w env = .ok (ret, e', w')) :
    e'.ranges = e.ranges := by
  by_cases hret : ret = .success
  · subst hret
    exact reload_ranges (autoReload_success h).1
  · obtain ⟨-, _, -, hreload⟩ := autoReload_failed h hret
    exact reload_ranges hreload

theorem syncWith_ranges {runTensors : NNExecutor → World → Outcome} {env : ReloadEnv}
    {inputTensors outputTensors : List (Option Nat)}
    (hrun : ∀ e w ret e' w', runTensors e w = .ok (ret, e', w') → e'.ranges = e.ranges)
    (h : syncWith runTensors e w env inputTensors outputTensors = .ok (ret, e', w')) :
    e'.ranges = e.ranges := by
  unfold syncWith at h
  split at h
  · cases h
  dsimp only at h
  have hhandler : ({ e with autoUnloadHandler := some 0 } : NNExecutor).ranges = e.ranges := rfl
  split at h
  · cases h
    exact hhandler
  split at h
  · cases h
    exact hhandler
  split at h
  · exact (hrun _ _ _ _ _ h).trans hhandler
  · unfold reloadAndRun at h
    split at h
    · cases h
    · rename_i hreload
      exact ((hrun _ _ _ _ _ h).trans (autoReload_ranges hreload)).trans hhandler
    · rename_i hreload
      cases h
      exact (autoReload_ranges hreload).trans hhandler

theorem run_ranges {env : ExecutorEnv} (h : e.run w env = .ok (ret, e', w')) :
    e'.ranges = e.ranges := by
  cases run_ran h with
  | refused => rfl
  | failed => rfl
  | dims _ houtputs hdims =>
    rw [(setOutputDims_sameBuffers (aligned_of_tensorsOf houtputs) hdims).1.rest]
    rfl
  | copied _ _ houtputs _ _ hdims =>
    rw [(setOutputDims_sameBuffers (aligned_of_tensorsOf houtputs) hdims).1.rest]
    rfl

/-- **The other calls** keep the ranges. -/
theorem perform_ranges {env : ExecutorEnv} {call : ExecutorCall}
    (hcall : ∀ inputIndex args, call ≠ .getInputDimRange inputIndex args)
    (h : call.perform e w env = .ok (ret, e', w')) : e'.ranges = e.ranges := by
  cases call with
  | getInputDimRange inputIndex args => exact absurd rfl (hcall inputIndex args)
  | setInput index nnTensor buffer length =>
    rw [(setInput_inputSet h).rest.1]
    rfl
  | setInputFromMemory index nnTensor memory =>
    rw [(setInputFromMemory_inputMemorySet h).rest.1]
    rfl
  | setOutput index buffer length =>
    rw [(setOutput_outputSet h).rest.1]
    rfl
  | setOutputFromMemory index memory =>
    rw [(setOutputFromMemory_outputMemorySet h).rest.1]
    rfl
  | run => exact run_ranges h
  | runSync reloadEnv inputTensors outputTensors =>
    exact syncWith_ranges (fun _ _ _ _ _ hrun => @tensorsWith_ranges _ _ _ _ _ setSyncDims _ _ _
      hrun) h
  | runSyncWithAipp reloadEnv inputTensors outputTensors =>
    refine syncWith_ranges (fun e₁ w₁ ret₁ e₂ w₂ hrun => ?_) h
    by_cases hset : env.setAippString = .success
    · rw [runAippTensors_eq _ _ _ _ _ hset] at hrun
      exact tensorsWith_ranges hrun
    · obtain ⟨-, rfl, rfl⟩ := runAippTensors_unset _ _ _ hset hrun
      rfl
  | createInputMemory | createOutputMemory | destroyInputMemory | destroyOutputMemory =>
    cases h
    rfl
  | setExtensionConfig configs =>
    obtain ⟨config, hrest⟩ := e.setExtensionConfig_rest env configs
    have hstate : e' = (e.setExtensionConfig env configs).2 ∧ w' = w := state_of_ok h
    rw [hstate.1, hrest]
    rfl
  | deinitModel mode =>
    obtain ⟨model, handler, hrest⟩ := e.deinitModel_rest env mode
    have hstate : e' = (e.deinitModel env mode).2 ∧ w' = w := state_of_ok h
    rw [hstate.1, hrest]
    rfl
  | autoUnload =>
    obtain ⟨model, handler, hrest⟩ := e.autoUnload_rest env
    have hstate : e' = e.autoUnload env ∧ w' = w := state_of_ok h
    rw [hstate.1, hrest]
    rfl
  | destroyPreparedModel =>
    obtain ⟨model, handler, hrest⟩ := e.destroyPreparedModel_rest
    have hstate : e' = e.destroyPreparedModel.2 ∧ w' = w := state_of_ok h
    rw [hstate.1, hrest]
    rfl

/-! ## Asking the device -/

/-- What the device answers during a call, if it is asked for the ranges to be kept. -/
def answer? (e : NNExecutor) : ExecutorEnv × ExecutorCall → Option DimRanges
  | (env, .getInputDimRange _ args) =>
    if args.minInputDims && args.maxInputDims && args.shapeNum && e.minInputDimsVec.isEmpty &&
        e.preparedModel.isSome then
      some env.dimRanges
    else none
  | _ => none

section Asking

variable {env : ExecutorEnv} {inputIndex : Nat} {args : DimRangeArgs} {answer : DimRanges}
  {range : Option (List Nat × List Nat)}

theorem getInputDimVec_eq (hmodel : e.preparedModel.isSome = true) :
    e.getInputDimVec env =
      if env.dimRanges.code ≠ .success then .ok (.operationForbidden, e)
      else if env.dimRanges.minInputDims.length ≠ env.dimRanges.maxInputDims.length then
        .ok (.invalidParameter, e)
      else .ok (e.pushDimRanges env.dimRanges.minInputDims env.dimRanges.maxInputDims) := by
  obtain ⟨preparedModel, hsome⟩ := Option.isSome_iff_exists.mp hmodel
  unfold getInputDimVec
  rw [hsome]

/-- A whole answer is kept behind what is there. -/
theorem getInputDimVec_whole (hmodel : e.preparedModel.isSome = true) (h : env.dimRanges.Whole) :
    e.getInputDimVec env = .ok (.success, { e with
      minInputDimsVec := e.minInputDimsVec ++ env.dimRanges.lists.1
      maxInputDimsVec := e.maxInputDimsVec ++ env.dimRanges.lists.2 }) := by
  rw [getInputDimVec_eq hmodel, if_neg (not_not.mpr h.1), if_neg (not_not.mpr h.2.length_eq),
    pushDimRanges_whole h.2]
  rfl

/-- On an executor that keeps nothing, its lists are what is kept from then on. -/
theorem getInputDimVec_first (hmodel : e.preparedModel.isSome = true) (h : env.dimRanges.Whole)
    (hnothing : e.ranges = ([], [])) (hvec : e.getInputDimVec env = .ok (ret, e')) :
    ret = .success ∧ e'.ranges = env.dimRanges.lists := by
  rw [getInputDimVec_whole hmodel h] at hvec
  cases hvec
  refine ⟨rfl, ?_⟩
  show (e.ranges.1 ++ _, e.ranges.2 ++ _) = _
  rw [hnothing]
  rfl

/-- Another one is refused, and nothing is kept of it if it does not break off. -/
theorem getInputDimVec_refused (hmodel : e.preparedModel.isSome = true)
    (h : ¬ env.dimRanges.Whole) :
    ∃ ret e', e.getInputDimVec env = .ok (ret, e') ∧ ret ≠ .success ∧
      (e'.ranges = e.ranges ↔ ¬ env.dimRanges.BreaksOff) := by
  rw [getInputDimVec_eq hmodel]
  by_cases hcode : env.dimRanges.code ≠ .success
  · rw [if_pos hcode]
    exact ⟨_, _, rfl, by decide, iff_of_true rfl fun hbreaks => hcode hbreaks.1⟩
  rw [if_neg hcode]
  by_cases hlength : env.dimRanges.minInputDims.length ≠ env.dimRanges.maxInputDims.length
  · rw [if_pos hlength]
    exact ⟨_, _, rfl, by decide, iff_of_true rfl fun hbreaks => hlength hbreaks.2.1⟩
  rw [if_neg hlength]
  have hranks : ¬ List.Forall₂ SameRank env.dimRanges.minInputDims env.dimRanges.maxInputDims :=
    fun hranks => h ⟨not_not.mp hcode, hranks⟩
  obtain ⟨hret, hkept⟩ := pushDimRanges_broken e (not_not.mp hlength) hranks
  refine ⟨_, _, rfl, by rw [hret]; decide, hkept.trans (not_congr ?_)⟩
  exact ⟨fun hfirst => ⟨not_not.mp hcode, not_not.mp hlength, hfirst, hranks⟩, fun hbreaks =>
    hbreaks.2.2.1⟩

theorem answer?_eq (e : NNExecutor) (env : ExecutorEnv) (inputIndex : Nat) (args : DimRangeArgs) :
    e.answer? (env, .getInputDimRange inputIndex args) =
      if args.minInputDims && args.maxInputDims && args.shapeNum && e.minInputDimsVec.isEmpty &&
          e.preparedModel.isSome then
        some env.dimRanges
      else none := rfl

/-- The device is asked when nothing is kept. -/
theorem answer?_eq_some (h : e.answer? (env, .getInputDimRange inputIndex args) = some answer) :
    env.dimRanges = answer ∧ e.minInputDimsVec = [] ∧ e.preparedModel.isSome = true ∧
      args.minInputDims = true ∧ args.maxInputDims = true ∧ args.shapeNum = true := by
  rw [answer?_eq] at h
  split at h
  · rename_i hasks
    rw [Bool.and_eq_true, Bool.and_eq_true, Bool.and_eq_true, Bool.and_eq_true] at hasks
    obtain ⟨⟨⟨⟨hmin, hmax⟩, hnum⟩, hempty⟩, hmodel⟩ := hasks
    exact ⟨Option.some.inj h, List.isEmpty_iff.mp hempty, hmodel, hmin, hmax, hnum⟩
  · cases h

/-- A call that asks ends as the asking does, or reads what is kept then. -/
theorem getInputDimRange_asked
    (hasked : e.answer? (env, .getInputDimRange inputIndex args) = some answer)
    (h : e.getInputDimRange env inputIndex args = .ok (ret, e', range)) :
    ∃ ret₁, e.getInputDimVec env = .ok (ret₁, e') ∧ (ret₁ ≠ .success → ret = ret₁) ∧
      (ret₁ = .success → e'.dimRangeAt inputIndex = (ret, range)) := by
  obtain ⟨-, hempty, -, hmin, hmax, hnum⟩ := answer?_eq_some hasked
  unfold getInputDimRange at h
  rw [hmin, hmax, hnum, hempty] at h
  simp only [Bool.not_true, Bool.false_eq_true, if_false, List.isEmpty_nil, if_true] at h
  split at h
  · cases h
  · rename_i hvec
    cases h
    exact ⟨_, hvec, fun hret => absurd rfl hret, fun _ => rfl⟩
  · rename_i hret hvec
    cases h
    exact ⟨_, hvec, fun _ => rfl, fun hsuccess => absurd hsuccess hret⟩

/-- A call that does not ask reads what is kept. -/
theorem getInputDimRange_unasked
    (hunasked : e.answer? (env, .getInputDimRange inputIndex args) = none)
    (h : e.getInputDimRange env inputIndex args = .ok (ret, e', range)) :
    e' = e ∧ (ret = .success → e.dimRangeAt inputIndex = (ret, range)) := by
  unfold getInputDimRange at h
  split at h
  · cases h
    exact ⟨rfl, nofun⟩
  split at h
  · cases h
    exact ⟨rfl, nofun⟩
  split at h
  · cases h
    exact ⟨rfl, nofun⟩
  rename_i hmin hmax hnum
  split at h
  · rename_i hempty
    -- Without a model the device cannot be asked, and the call faults.
    simp only [Bool.not_eq_true', Bool.not_eq_false] at hmin hmax hnum
    rw [answer?_eq, hmin, hmax, hnum, hempty] at hunasked
    have hmodel : e.preparedModel = none := by
      cases hsome : e.preparedModel with
      | none => rfl
      | some preparedModel =>
        rw [hsome] at hunasked
        cases hunasked
    unfold getInputDimVec at h
    rw [hmodel] at h
    cases h
  · cases h
    exact ⟨rfl, fun _ => rfl⟩

/-- What is read is what is kept of the input. -/
theorem dimRangeAt_success (h : e.dimRangeAt inputIndex = (.success, range)) :
    ∃ mins maxs, e.ranges.1[inputIndex]? = some mins ∧ e.ranges.2[inputIndex]? = some maxs ∧
      range = some (mins, maxs) := by
  unfold dimRangeAt at h
  split at h
  · rename_i mins maxs hmins hmaxs
    split at h
    · cases h
    · cases h
      exact ⟨mins, maxs, hmins, hmaxs, rfl⟩
  · cases h

/-- What is read from a kept answer is the answer for the input. -/
theorem at?_of_dimRangeAt (hkept : e.ranges = answer.lists)
    (h : e.dimRangeAt inputIndex = (.success, range)) :
    range.isSome = true ∧ range = answer.at? inputIndex := by
  obtain ⟨mins, maxs, hmins, hmaxs, rfl⟩ := dimRangeAt_success h
  rw [hkept, DimRanges.lists, List.getElem?_map] at hmins hmaxs
  obtain ⟨mins, hmin, rfl⟩ := Option.map_eq_some_iff.mp hmins
  obtain ⟨maxs, hmax, rfl⟩ := Option.map_eq_some_iff.mp hmaxs
  refine ⟨rfl, ?_⟩
  unfold DimRanges.at?
  rw [hmin, hmax]

end Asking

/-! ## Runs -/

/-- An executor in its world, and what the device has answered so far. -/
structure Session where
  executor : NNExecutor
  world : World
  answers : List DimRanges := []

namespace Session

/-- The answers with that of a call. -/
def answersWith (s : Session) (call : ExecutorEnv × ExecutorCall) : List DimRanges :=
  s.answers ++ (s.executor.answer? call).toList

def step (s : Session) (call : ExecutorEnv × ExecutorCall) : Except Fault Session :=
  (NNExecutor.step (s.executor, s.world) call).map fun p => ⟨p.1, p.2, s.answersWith call⟩

/-- A call that returns ranges returns those of one whole answer, and asking the device in
vain changes nothing that is kept. -/
def Independent (s : Session) : ExecutorEnv × ExecutorCall → Prop
  | (env, .getInputDimRange inputIndex args) =>
    (∀ e' range, s.executor.getInputDimRange env inputIndex args = .ok (.success, e', range) →
      ∃ answer ∈ s.answersWith (env, .getInputDimRange inputIndex args), answer.Whole ∧
        range.isSome = true ∧ range = answer.at? inputIndex) ∧
    ((s.executor.answer? (env, .getInputDimRange inputIndex args)).isSome = true →
      ∀ ret e', s.executor.getInputDimVec env = .ok (ret, e') → ret ≠ .success →
        e'.ranges = s.executor.ranges)
  | _ => True

/-- What is kept is a whole answer, or nothing. -/
def Kept (s : Session) : Prop :=
  s.executor.ranges = ([], []) ∨
    ∃ answer ∈ s.answers, answer.Whole ∧ s.executor.ranges = answer.lists

theorem step_eq_ok {s s' : Session} {call : ExecutorEnv × ExecutorCall}
    (h : step s call = .ok s') :
    (∃ ret, call.2.perform s.executor s.world call.1 = .ok (ret, s'.executor, s'.world)) ∧
      s'.answers = s.answersWith call := by
  unfold step at h
  cases hstep : NNExecutor.step (s.executor, s.world) call with
  | error fault =>
    rw [hstep] at h
    cases h
  | ok p =>
    rw [hstep] at h
    cases h
    exact ⟨NNExecutor.step_eq_ok hstep, rfl⟩

/-- What is kept is empty as a whole. -/
theorem Kept.ranges_of_nil {s : Session} (h : s.Kept) (hempty : s.executor.minInputDimsVec = []) :
    s.executor.ranges = ([], []) := by
  rcases h with hnothing | ⟨answer, -, hwhole, hkept⟩
  · exact hnothing
  · have hmins : answer.minInputDims = [] :=
      List.map_eq_nil_iff.mp ((congrArg Prod.fst hkept).symm.trans hempty)
    have hmaxs : answer.maxInputDims = [] := by
      rw [← List.length_eq_zero_iff, ← hwhole.2.length_eq, hmins]
      rfl
    rw [hkept, DimRanges.lists, hmins, hmaxs]
    rfl

/-- **Steps**: what is kept remains whole unless an answer breaks off. -/
theorem kept_step {s s' : Session} {call : ExecutorEnv × ExecutorCall} (hs : s.Kept)
    (hanswer : ∀ answer ∈ s.executor.answer? call, ¬ answer.BreaksOff)
    (h : step s call = .ok s') : s'.Kept := by
  obtain ⟨e₁, w₁, answers₁⟩ := s'
  obtain ⟨⟨ret, hperform⟩, hanswers⟩ := step_eq_ok h
  have hkeeps : e₁.ranges = s.executor.ranges → Kept ⟨e₁, w₁, answers₁⟩ := by
    intro hsame
    rcases hs with hnothing | ⟨answer, hmem, hkept⟩
    · exact Or.inl (hsame.trans hnothing)
    · refine Or.inr ⟨answer, ?_, hkept.1, hsame.trans hkept.2⟩
      exact (congrArg (answer ∈ ·) hanswers).mpr (List.mem_append_left _ hmem)
  obtain ⟨env, call⟩ := call
  by_cases hcall : ∀ inputIndex args, call ≠ .getInputDimRange inputIndex args
  · exact hkeeps (perform_ranges hcall hperform)
  · push Not at hcall
    obtain ⟨inputIndex, args, rfl⟩ := hcall
    unfold ExecutorCall.perform at hperform
    dsimp only at hperform
    split at hperform
    · cases hperform
    rename_i e' range hrange
    cases hperform
    cases hasked : s.executor.answer? (env, .getInputDimRange inputIndex args) with
    | none =>
      obtain ⟨hsame, -⟩ := getInputDimRange_unasked hasked hrange
      exact hkeeps (by rw [hsame])
    | some answer =>
      obtain ⟨rfl, hempty, hmodel, -⟩ := answer?_eq_some hasked
      obtain ⟨ret₁, hvec, -⟩ := getInputDimRange_asked hasked hrange
      by_cases hwhole : env.dimRanges.Whole
      · obtain ⟨-, hlists⟩ :=
          getInputDimVec_first hmodel hwhole (hs.ranges_of_nil hempty) hvec
        refine Or.inr ⟨env.dimRanges, ?_, hwhole, hlists⟩
        refine (congrArg (env.dimRanges ∈ ·) hanswers).mpr (List.mem_append_right _ ?_)
        rw [hasked]
        exact List.mem_cons_self
      · obtain ⟨ret₂, e₂, hvec₂, -, hkept⟩ := getInputDimVec_refused hmodel hwhole
        cases hvec.symm.trans hvec₂
        exact hkeeps (hkept.mpr (hanswer _ hasked))

/-- **One call**: where what is kept is whole, the condition on the answer is exact. -/
theorem independent_iff_answer {s : Session} {call : ExecutorEnv × ExecutorCall} (hs : s.Kept) :
    s.Independent call ↔ ∀ answer ∈ s.executor.answer? call, ¬ answer.BreaksOff := by
  obtain ⟨env, call⟩ := call
  by_cases hcall : ∀ inputIndex args, call ≠ .getInputDimRange inputIndex args
  · have hunasked : s.executor.answer? (env, call) = none := by
      cases call with
      | getInputDimRange inputIndex args => exact absurd rfl (hcall inputIndex args)
      | _ => rfl
    have htrue : s.Independent (env, call) := by
      cases call with
      | getInputDimRange inputIndex args => exact absurd rfl (hcall inputIndex args)
      | _ => trivial
    refine iff_of_true htrue fun answer hanswer => ?_
    rw [hunasked] at hanswer
    cases hanswer
  push Not at hcall
  obtain ⟨inputIndex, args, rfl⟩ := hcall
  cases hasked : s.executor.answer? (env, .getInputDimRange inputIndex args) with
  | none =>
    refine iff_of_true ⟨fun e' range hrange => ?_, fun hsome => ?_⟩ nofun
    · -- What is read is in memory, so something is kept.
      have hat := (getInputDimRange_unasked hasked hrange).2 rfl
      rcases hs with hnothing | ⟨answer, hmem, hwhole, hkept⟩
      · obtain ⟨mins, -, hmins, -⟩ := dimRangeAt_success hat
        rw [hnothing] at hmins
        cases hmins
      · obtain ⟨hsome, heq⟩ := at?_of_dimRangeAt hkept hat
        exact ⟨answer, List.mem_append_left _ hmem, hwhole, hsome, heq⟩
    · rw [hasked] at hsome
      cases hsome
  | some answer =>
    obtain ⟨rfl, hempty, hmodel, -⟩ := answer?_eq_some hasked
    by_cases hwhole : env.dimRanges.Whole
    · refine iff_of_true ⟨fun e' range hrange => ?_, fun _ ret e' hvec hret => ?_⟩
        fun answer hanswer hbreaks => ?_
      · obtain ⟨ret₁, hvec, -, hread⟩ := getInputDimRange_asked hasked hrange
        obtain ⟨hsuccess, hlists⟩ :=
          getInputDimVec_first hmodel hwhole (hs.ranges_of_nil hempty) hvec
        obtain ⟨hsome, heq⟩ := at?_of_dimRangeAt hlists (hread hsuccess)
        refine ⟨env.dimRanges, ?_, hwhole, hsome, heq⟩
        rw [answersWith, hasked]
        exact List.mem_append_right _ List.mem_cons_self
      · rw [getInputDimVec_whole hmodel hwhole] at hvec
        cases hvec
        exact absurd rfl hret
      · cases hanswer
        exact hbreaks.2.2.2 hwhole.2
    · obtain ⟨ret₁, e₁, hvec, hret, hkept⟩ := getInputDimVec_refused hmodel hwhole
      constructor
      · rintro ⟨-, hvain⟩ answer hanswer
        cases hanswer
        refine hkept.mp (hvain ?_ ret₁ e₁ hvec hret)
        rw [hasked]
        rfl
      · intro hno
        refine ⟨fun e' range hrange => ?_, fun _ ret e' hvec' _ => ?_⟩
        · obtain ⟨ret₂, hvec₂, hfails, -⟩ := getInputDimRange_asked hasked hrange
          cases hvec.symm.trans hvec₂
          exact absurd (hfails hret) (Ne.symm hret)
        · cases hvec.symm.trans hvec'
          exact hkept.mpr (hno _ rfl)

end Session

/-- **In every run, the ranges that are returned are those of a whole answer and a failure
keeps nothing, exactly if no answer that is asked for breaks off.** -/
theorem independent_iff {c : NNCompiler Nat} {created : Bool} {e : NNExecutor}
    (hcreate : c.createExecutor created = some e) (w : World)
    (calls : List (ExecutorEnv × ExecutorCall)) :
    Run.Meets Session.step Session.Independent ⟨e, w, []⟩ calls ↔
      Run.Meets Session.step (fun s call => ∀ answer ∈ s.executor.answer? call,
        ¬ answer.BreaksOff) ⟨e, w, []⟩ calls := by
  have hcreated : e.ranges = ([], []) := by
    obtain ⟨preparedModel, -, rfl⟩ := NNCompiler.createExecutor_eq_some hcreate
    rfl
  exact Run.meets_congr_of_invariant (fun _ _ => Session.independent_iff_answer)
    (fun _ _ _ => Session.kept_step) (Or.inl hcreated) calls

/-- Two inputs, the second of a rank for the minima and another for the maxima. -/
def brokenRanges : ExecutorEnv where
  dimRanges := { code := .success, minInputDims := [[1], [2, 3]], maxInputDims := [[1], [2]] }

/-- A new executor that has not asked yet. -/
def newSession : Session where
  executor := .create ((smallCompiler [2]).share {}).1 ⟨0, (.success, []), .success⟩
  world := ((smallCompiler [2]).share {}).2

/-- An executor that is asked twice. -/
theorem independent_iff_twice :
    Run.Meets Session.step Session.Independent newSession
        [(brokenRanges, .getInputDimRange 0 {}), (brokenRanges, .getInputDimRange 0 {})] ↔
      Run.Meets Session.step (fun s call => ∀ answer ∈ s.executor.answer? call,
        ¬ answer.BreaksOff) newSession
        [(brokenRanges, .getInputDimRange 0 {}), (brokenRanges, .getInputDimRange 0 {})] :=
  @independent_iff ((smallCompiler [2]).share {}).1 true _ rfl _ _

/-- The answer is refused, and the next call returns the range of its first input. -/
theorem refused_answer_returned :
    (newSession.executor.getInputDimRange brokenRanges 0 {}).map Prod.fst =
        .ok .invalidParameter ∧
      (∃ s, Session.step newSession (brokenRanges, .getInputDimRange 0 {}) = .ok s ∧
        (s.executor.getInputDimRange brokenRanges 0 {}).map (fun r => (r.1, r.2.2)) =
          .ok (.success, some ([1], [1])) ∧
        ¬ s.Independent (brokenRanges, .getInputDimRange 0 {})) ∧
      ¬ Run.Meets Session.step Session.Independent newSession
        [(brokenRanges, .getInputDimRange 0 {}), (brokenRanges, .getInputDimRange 0 {})] := by
  have hnone : ∀ answer ∈ [brokenRanges.dimRanges], ¬ answer.Whole := by
    intro answer hmem hwhole
    cases List.mem_singleton.mp hmem
    cases hwhole.2 with
    | cons _ hrest => cases hrest with
      | cons hrank _ => cases hrank
  refine ⟨rfl, ⟨_, rfl, rfl, fun hsecond => ?_⟩, fun hmeets => ?_⟩
  · obtain ⟨answer, hmem, hwhole, -⟩ := hsecond.1 _ _ rfl
    exact hnone answer hmem hwhole
  · obtain ⟨answer, hmem, hwhole, -⟩ := (hmeets.2 _ rfl).1.1 _ _ rfl
    exact hnone answer hmem hwhole

end NNExecutor

end NNRt
