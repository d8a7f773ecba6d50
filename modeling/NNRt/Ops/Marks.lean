import NNRt.Ops.OpsRegistry

/-!
# What a builder does to the tensors

`Build` of any builder leaves every tensor as it was, up to marks, and which
tensors it marks is a function of the call: `OpsBuilder.marks`.

- `build_tensors`: the tensors after `Build` are the tensors before it with
  those marks, whether `Build` succeeds or fails.
- `build_ok`: what a built operation is made of.
-/

namespace NNRt

/-- The tensors with those at `indices` marked. -/
def markAll (indices : List Nat) (tensors : List Tensor) : List Tensor :=
  tensors.mapIdx fun i t => if i ∈ indices then t.identifyOpParameter else t

@[simp] theorem length_markAll (indices : List Nat) (tensors : List Tensor) :
    (markAll indices tensors).length = tensors.length := by
  simp [markAll]

theorem getElem?_markAll (indices : List Nat) (tensors : List Tensor) (i : Nat) :
    (markAll indices tensors)[i]? =
      tensors[i]?.map fun t => if i ∈ indices then t.identifyOpParameter else t := by
  simp [markAll]

@[simp] theorem markAll_nil (tensors : List Tensor) : markAll [] tensors = tensors := by
  apply List.ext_getElem?
  intro i
  simp [getElem?_markAll]

/-- Marking one tensor and then others is marking all of them. -/
theorem markAll_set {indices : List Nat} {tensors : List Tensor} {i : Nat} {t : Tensor}
    (h : tensors[i]? = some t) :
    markAll indices (tensors.set i t.identifyOpParameter) = markAll (i :: indices) tensors := by
  apply List.ext_getElem?
  intro j
  rw [getElem?_markAll, getElem?_markAll, List.getElem?_set]
  by_cases hij : i = j
  · subst hij
    have hlt : i < tensors.length := (List.getElem?_eq_some_iff.mp h).1
    have hidem : t.identifyOpParameter.identifyOpParameter = t.identifyOpParameter := rfl
    rw [h, if_pos rfl, if_pos hlt, Option.map_some, Option.map_some, if_pos List.mem_cons_self]
    by_cases hi : i ∈ indices
    · rw [if_pos hi, hidem]
    · rw [if_neg hi]
  · have hji : j ≠ i := fun he => hij he.symm
    simp [hij, hji]

namespace Check

/-- Does a tensor get as far as the call of `IdentifyOpParameter`? -/
def marks (t : Tensor) : List Check → Bool
  | [] => false
  | .mark :: _ => true
  | check :: checks => check.passes t && marks t checks

/-- The checks change a tensor by the mark at most. -/
theorem run_snd (checks : List Check) (t : Tensor) :
    (run checks t).2 = if marks t checks then t.identifyOpParameter else t := by
  induction checks generalizing t with
  | nil => rfl
  | cons check checks ih =>
    by_cases hmark : check = .mark
    · subst hmark
      rw [run, ih, marks]
      -- Marked once or twice, the tensor is the same.
      split <;> rfl
    · have hrun : run (check :: checks) t =
          if check.passes t then run checks t else (false, t) := by
        cases check <;> first | rfl | exact absurd rfl hmark
      have hmarks : marks t (check :: checks) = (check.passes t && marks t checks) := by
        cases check <;> first | rfl | exact absurd rfl hmark
      rw [hrun, hmarks]
      by_cases hpass : check.passes t
      · simp [hpass, ih]
      · simp [hpass]

end Check

theorem Setter.run_tensor {σ : Type} {setter : Setter σ} {s : σ} {t t' : Tensor} {r : Option σ}
    (h : setter.run s t = .ok (r, t')) :
    t' = if Check.marks t setter.checks then t.identifyOpParameter else t := by
  rw [← Check.run_snd]
  unfold Setter.run at h
  rcases hchecks : Check.run setter.checks t with ⟨passed, u⟩
  rw [hchecks] at h
  cases passed with
  | false =>
    cases h
    rfl
  | true =>
    cases hstore : setter.store s u with
    | error fault => simp [hstore] at h
    | ok r' =>
      simp only [hstore, ok_bind, pure_eq_ok, Except.ok.injEq, Prod.mk.injEq] at h
      exact h.2.symm

namespace OpsBuilder

variable {σ : Type} {b : OpsBuilder σ}

/-- Would the loop mark this parameter tensor? -/
def marksTensor (b : OpsBuilder σ) (t : Tensor) : Bool :=
  b.marksParams ||
    match b.paramMap.lookup t.tensorType with
    | none => false
    | some setter => Check.marks t setter.checks

/-- The parameters the loop marks: it goes on to the next one as long as the
setters accept. -/
def marked (b : OpsBuilder σ) : List Nat → σ → List Tensor → List Nat
  | [], _, _ => []
  | i :: params, s, tensors =>
    match tensors[i]? with
    | none => []
    | some t =>
      let rest :=
        match b.setParam s t with
        | .ok (some s, t) => marked b params s (tensors.set i t)
        | _ => []
      if b.marksTensor t then i :: rest else rest

/-- The parameters that `Build` marks. -/
def marks (b : OpsBuilder σ) (params inputs outputs : List Nat) (tensors : List Tensor) :
    List Nat :=
  if b.checkIO inputs outputs tensors ≠ .success then []
  else if checkParamIndex b.paramNum params tensors ≠ .success then []
  else
    match b.readInputs b.init (tensorsAt tensors inputs) with
    | none => []
    | some s => b.marked params s tensors

theorem setParam_tensor {s : σ} {t t' : Tensor} {r : Option σ}
    (h : b.setParam s t = .ok (r, t')) :
    t' = if b.marksTensor t then t.identifyOpParameter else t := by
  unfold setParam at h
  have htype : (if b.marksParams then t.identifyOpParameter else t).tensorType = t.tensorType := by
    split <;> rfl
  simp only [htype] at h
  unfold marksTensor
  cases hsetter : b.paramMap.lookup t.tensorType with
  | none =>
    simp only [hsetter, Except.ok.injEq, Prod.mk.injEq] at h
    simp [← h.2]
  | some setter =>
    simp only [hsetter] at h
    rw [Setter.run_tensor h]
    by_cases hparams : b.marksParams
    · -- Marked by the loop: the setter's own call changes nothing.
      simp only [hparams, if_true, Bool.true_or]
      split <;> rfl
    · simp [hparams]

/-- The loop changes the tensors by its marks. -/
theorem buildParams_tensors {params : List Nat} {s : σ} {tensors tensors' : List Tensor}
    {r : Option σ} (h : b.buildParams params s tensors = .ok (r, tensors')) :
    tensors' = markAll (b.marked params s tensors) tensors := by
  induction params generalizing s tensors with
  | nil =>
    cases h
    simp [marked]
  | cons i params ih =>
    rw [buildParams] at h
    cases hi : tensors[i]? with
    | none => simp [hi] at h
    | some t =>
      simp only [hi] at h
      -- What the step leaves at `i`, as a mark on the whole list.
      have hset : ∀ {r t'} (indices : List Nat), b.setParam s t = .ok (r, t') →
          markAll indices (tensors.set i t') =
            markAll (if b.marksTensor t then i :: indices else indices) tensors := by
        intro r t' indices hparam
        rw [setParam_tensor hparam]
        split
        · exact markAll_set hi
        · have hsame : tensors.set i t = tensors := by
            obtain ⟨hlt, hget⟩ := List.getElem?_eq_some_iff.mp hi
            rw [← hget]
            exact List.set_getElem_self hlt
          rw [hsame]
      cases hparam : b.setParam s t with
      | error fault => simp [hparam] at h
      | ok p =>
        obtain ⟨r', t'⟩ := p
        cases r' with
        | none =>
          simp only [hparam, Except.ok.injEq, Prod.mk.injEq] at h
          have hnil := hset [] hparam
          rw [markAll_nil] at hnil
          simp only [marked, hi, hparam]
          rw [← h.2, hnil]
        | some s' =>
          simp only [hparam] at h
          rw [ih h, hset _ hparam]
          simp only [marked, hi, hparam]

/-- What a call of `Build` that does not fault has gone through. -/
theorem build_cases {params inputs outputs : List Nat} {tensors tensors' : List Tensor}
    {r : Except ReturnCode BuiltOp} (h : b.build params inputs outputs tensors = .ok (r, tensors')) :
    (∃ ret, r = .error ret ∧ ret ≠ .success ∧ tensors' = tensors ∧
        b.marks params inputs outputs tensors = []) ∨
      ∃ s, b.marks params inputs outputs tensors = b.marked params s tensors ∧
        ((r = .error .invalidParameter ∧ b.buildParams params s tensors = .ok (none, tensors')) ∨
          ∃ s', b.buildParams params s tensors = .ok (some s', tensors') ∧
            b.finish s' inputs outputs tensors' = .ok r) := by
  unfold build at h
  unfold marks
  by_cases hio : b.checkIO inputs outputs tensors ≠ .success
  · simp only [hio, if_true, ne_eq, not_false_eq_true, Except.ok.injEq, Prod.mk.injEq] at h
    exact Or.inl ⟨_, h.1.symm, hio, h.2.symm, by simp [hio]⟩
  simp only [ne_eq, not_not] at hio
  simp only [hio, ne_eq, not_true_eq_false, if_false] at h
  cases hquant : b.earlyQuantType outputs tensors with
  | error fault => simp [hquant] at h
  | ok quantType =>
  simp only [hquant] at h
  by_cases hparam : checkParamIndex b.paramNum params tensors ≠ .success
  · simp only [hparam, if_true, not_false_eq_true, Except.ok.injEq, Prod.mk.injEq] at h
    exact Or.inl ⟨_, h.1.symm, hparam, h.2.symm, by simp [hio, hparam]⟩
  simp only [ne_eq, not_not] at hparam
  simp only [hparam, not_true_eq_false, if_false] at h
  cases hread : b.readInputs b.init (tensorsAt tensors inputs) with
  | none =>
    simp only [hread, Except.ok.injEq, Prod.mk.injEq] at h
    exact Or.inl ⟨_, h.1.symm, nofun, h.2.symm, by simp [hio, hparam]⟩
  | some s =>
    -- From here on parameters are read, and marked as they are.
    refine Or.inr ⟨s, by simp [hio, hparam], ?_⟩
    simp only [hread] at h
    cases hbuild : b.buildParams params s tensors with
    | error fault => simp [hbuild] at h
    | ok p =>
      obtain ⟨r', tensors₁⟩ := p
      cases r' with
      | none =>
        simp only [hbuild, Except.ok.injEq, Prod.mk.injEq] at h
        exact Or.inl ⟨h.1.symm, by rw [h.2]⟩
      | some s' =>
        simp only [hbuild] at h
        cases hfinish : b.finish s' inputs outputs tensors₁ with
        | error fault => simp [hfinish] at h
        | ok r₁ =>
          simp only [hfinish, ok_bind, pure_eq_ok, Except.ok.injEq, Prod.mk.injEq] at h
          obtain ⟨rfl, rfl⟩ := h
          exact Or.inr ⟨s', rfl, hfinish⟩

/-- **`Build` changes the tensors by its marks**, in success and in failure. -/
theorem build_tensors {params inputs outputs : List Nat} {tensors tensors' : List Tensor}
    {r : Except ReturnCode BuiltOp} (h : b.build params inputs outputs tensors = .ok (r, tensors')) :
    tensors' = markAll (b.marks params inputs outputs tensors) tensors := by
  rcases build_cases h with ⟨ret, -, -, rfl, hmarks⟩ | ⟨s, hmarks, hloop⟩
  · rw [hmarks, markAll_nil]
  · rw [hmarks]
    rcases hloop with ⟨-, hloop⟩ | ⟨s', hloop, -⟩
    · exact buildParams_tensors hloop
    · exact buildParams_tensors hloop

/-- A built operation has gone through the whole of `Build`. -/
theorem finish_ok {s : σ} {inputs outputs : List Nat} {tensors : List Tensor} {op : BuiltOp}
    (h : b.finish s inputs outputs tensors = .ok (.ok op)) :
    ∃ quantType, b.quantType outputs tensors = .ok quantType ∧
      op = ⟨b.opName, inputs, outputs, quantType, b.primitive s⟩ := by
  unfold finish at h
  split at h
  · cases h
  · cases hquant : b.quantType outputs tensors with
    | error fault => simp [hquant] at h
    | ok quantType =>
      simp only [hquant, ok_bind, pure_eq_ok, Except.ok.injEq] at h
      exact ⟨quantType, rfl, h.symm⟩
  · simp at h

theorem finish_error {s : σ} {inputs outputs : List Nat} {tensors : List Tensor}
    {ret : ReturnCode} (h : b.finish s inputs outputs tensors = .ok (.error ret)) :
    ret ≠ .success := by
  unfold finish at h
  split at h
  · cases h
  · cases hquant : b.quantType outputs tensors with
    | error fault => simp [hquant] at h
    | ok quantType => simp [hquant] at h
  · rename_i ret' hne hcheck
    simp only [Except.ok.injEq, Except.error.injEq] at h
    exact h ▸ hne

/-- A `Build` that fails does not answer success. -/
theorem build_error {params inputs outputs : List Nat} {tensors tensors' : List Tensor}
    {ret : ReturnCode}
    (h : b.build params inputs outputs tensors = .ok (.error ret, tensors')) :
    ret ≠ .success := by
  rcases build_cases h with ⟨ret', hr, hne, -⟩ | ⟨s, -, ⟨hr, -⟩ | ⟨s', -, hfinish⟩⟩
  · cases hr
    exact hne
  · cases hr
    nofun
  · exact finish_error hfinish

/-- A built operation is made from the given indices and the builder's members. -/
theorem build_ok {params inputs outputs : List Nat} {tensors tensors' : List Tensor}
    {op : BuiltOp} (h : b.build params inputs outputs tensors = .ok (.ok op, tensors')) :
    ∃ s quantType, b.quantType outputs tensors' = .ok quantType ∧
      op = ⟨b.opName, inputs, outputs, quantType, b.primitive s⟩ := by
  rcases build_cases h with ⟨ret, hr, -⟩ | ⟨s, -, ⟨hr, -⟩ | ⟨s', -, hfinish⟩⟩
  · cases hr
  · cases hr
  · exact ⟨s', finish_ok hfinish⟩

/-- A built operation keeps its indices. -/
theorem build_indices {params inputs outputs : List Nat} {tensors tensors' : List Tensor}
    {op : BuiltOp} (h : b.build params inputs outputs tensors = .ok (.ok op, tensors')) :
    op.inputsIndex = inputs ∧ op.outputsIndex = outputs := by
  obtain ⟨s, quantType, -, rfl⟩ := build_ok h
  exact ⟨rfl, rfl⟩

end OpsBuilder

end NNRt
