import NNRt.Ops.Readings

/-!
# The shapes of a layer normalisation

`LayerNormBuilder` compares gamma and beta with the end of the input's shape, position by
position, at indices shifted by the axis.

- `sameShape_iff`: the comparison loop stays inside all three lists.
- `layerNorm_build_iff`: **with otherwise valid arguments, `Build` succeeds exactly for the
  consistent shapes**, and it never faults.
-/

namespace NNRt.Ops

namespace LayerNorm

/-- What a parameter of the builder says. -/
inductive Param
  | beginNormAxis (axis : Int64)
  | epsilon (epsilon : UInt32)
  | beginParamsAxis (axis : Int64)

/-- The setters of the builder, as readings. -/
def readings : List (TensorType × Reading Param) :=
  [(.layerNormBeginNormAxis,
      .int64 [.mark, .dataType .int64, .scalar, .buffer] .beginNormAxis),
    (.layerNormEpsilon,
      .float [.mark, .dataType .float32, .scalar, .buffer] .epsilon),
    (.layerNormBeginParamAxis,
      .int64 [.mark, .dataType .int64, .scalar, .buffer] .beginParamsAxis)]

/-- What a parameter says is stored. -/
def put (s : LayerNorm) : Param → LayerNorm
  | .beginNormAxis axis => { s with beginNormAxis := axis }
  | .epsilon epsilon => { s with epsilon := epsilon }
  | .beginParamsAxis axis => { s with beginParamsAxis := axis }

theorem goesBy_readings :
    layerNormBuilder.GoesBy (fun _ => True) readings fun s p => .ok (put s p) :=
  .cons ⟨rfl, Reading.goes_value (fun _ => rfl) fun _ _ => rfl⟩
    (.cons ⟨rfl, Reading.goes_value (fun _ => rfl) fun _ _ => rfl⟩
      (.cons ⟨rfl, Reading.goes_value (fun _ => rfl) fun _ _ => rfl⟩ .nil))

/-- The axis a parameter gives. -/
def givenAxis : Param → Option Int64
  | .beginNormAxis axis => some axis
  | _ => none

/-- The axis that counts: the last one given, or 1. -/
def normAxis (ps : List Param) : Int64 :=
  (ps.filterMap givenAxis).getLastD 1

theorem foldl_put_axis (s : LayerNorm) (ps : List Param) :
    (ps.foldl put s).beginNormAxis = (ps.filterMap givenAxis).getLastD s.beginNormAxis :=
  Writes.foldl_field (fun _ p => by cases p <;> rfl) s ps

/-! ## The comparison -/

/-- The comparison loop from a position on, in lists that have that position's shape left. -/
theorem sameShape_iff {input gamma beta : List Int32} {beginAxis n : Nat} :
    ∀ {k : Nat}, input.length = beginAxis + k + n → gamma.length = k + n → beta.length = k + n →
      ∃ ret, sameShape input gamma beta beginAxis (List.range' (beginAxis + k) n) = .ok ret ∧
        (ret = .success ↔ gamma.drop k = input.drop (beginAxis + k) ∧
          beta.drop k = input.drop (beginAxis + k)) := by
  induction n with
  | zero =>
    intro k hinput hgamma hbeta
    refine ⟨.success, rfl, iff_of_true rfl ?_⟩
    rw [List.drop_eq_nil_of_le (by omega), List.drop_eq_nil_of_le (by omega),
      List.drop_eq_nil_of_le (by omega)]
    exact ⟨rfl, rfl⟩
  | succ n ih =>
    intro k hinput hgamma hbeta
    have hi : beginAxis + k < input.length := by omega
    have hg : k < gamma.length := by omega
    have hb : k < beta.length := by omega
    have hshift : beginAxis + k - beginAxis = k := by omega
    rw [List.range'_succ, sameShape, hshift, List.getElem?_eq_getElem hi,
      List.getElem?_eq_getElem hg, List.getElem?_eq_getElem hb, List.drop_eq_getElem_cons hi,
      List.drop_eq_getElem_cons hg, List.drop_eq_getElem_cons hb, List.cons.injEq,
      List.cons.injEq]
    dsimp only
    by_cases hne : gamma[k] ≠ input[beginAxis + k] ∨ beta[k] ≠ input[beginAxis + k]
    · rw [if_pos hne]
      refine ⟨.invalidParameter, rfl, iff_of_false nofun ?_⟩
      rintro ⟨⟨hgd, -⟩, hbd, -⟩
      exact hne.elim (· hgd) (· hbd)
    · rw [if_neg hne]
      rw [not_or, not_not, not_not] at hne
      obtain ⟨ret, hret, hiff⟩ := ih (k := k + 1) (by omega) (by omega) (by omega)
      refine ⟨ret, hret, hiff.trans ?_⟩
      rw [and_iff_right hne.1, and_iff_right hne.2]
      rfl

/-- The comparison with an axis inside the rank. -/
theorem validateGammaAndBetaShape_iff {input : List Int32} (gamma beta : List Int32)
    {beginAxis : Nat} (hrank : beginAxis < input.length) :
    ∃ ret, validateGammaAndBetaShape input gamma beta beginAxis = .ok ret ∧
      (ret = .success ↔ gamma = input.drop beginAxis ∧ beta = input.drop beginAxis) := by
  unfold validateGammaAndBetaShape
  by_cases hlength : gamma.length ≠ input.length - beginAxis ∨
      beta.length ≠ input.length - beginAxis
  · rw [if_pos hlength]
    refine ⟨.invalidParameter, rfl, iff_of_false nofun ?_⟩
    rintro ⟨rfl, rfl⟩
    exact hlength.elim (· List.length_drop) (· List.length_drop)
  · rw [if_neg hlength]
    rw [not_or, not_not, not_not] at hlength
    exact sameShape_iff (k := 0) (by omega) (by omega) (by omega)

/-- The shapes of the inputs are consistent with an axis. -/
def Consistent (axis : Int64) (x gamma beta : Tensor) : Prop :=
  (1 ≤ axis.toInt ∧ axis.toInt < x.dimensions.length) ∧
    gamma.dimensions = x.dimensions.drop axis.toInt.toNat ∧
    beta.dimensions = x.dimensions.drop axis.toInt.toNat

theorem checkShapes_iff (s : LayerNorm) (x gamma beta : Tensor) :
    ∃ ret, s.checkShapes [x, gamma, beta] = .ok ret ∧
      (ret = .success ↔ Consistent s.beginNormAxis x gamma beta) := by
  unfold checkShapes Consistent
  dsimp only
  have hsmall : s.beginNormAxis < 1 ↔ s.beginNormAxis.toInt < 1 := Int64.lt_iff_toInt_lt
  by_cases haxis : s.beginNormAxis.toInt ≥ x.dimensions.length ∨ s.beginNormAxis < 1
  · rw [if_pos haxis]
    rw [hsmall] at haxis
    refine ⟨.invalidParameter, rfl, iff_of_false nofun ?_⟩
    rintro ⟨hrange, -⟩
    omega
  · rw [if_neg haxis]
    rw [hsmall] at haxis
    have hrank : s.beginNormAxis.toInt.toNat < x.dimensions.length := by omega
    obtain ⟨ret, hret, hiff⟩ :=
      validateGammaAndBetaShape_iff gamma.dimensions beta.dimensions hrank
    refine ⟨ret, hret, hiff.trans (and_iff_right ?_).symm⟩
    omega

/-- Marks do not change shapes. -/
theorem checkShapes_markAll (s : LayerNorm) (indices inputs : List Nat) {tensors : List Tensor}
    {x gamma beta : Tensor} (hinputs : OpsBuilder.tensorsAt tensors inputs = [x, gamma, beta]) :
    ∃ ret, s.checkShapes (OpsBuilder.tensorsAt (markAll indices tensors) inputs) = .ok ret ∧
      (ret = .success ↔ Consistent s.beginNormAxis x gamma beta) := by
  have hmarks := OpsBuilder.tensorsAt_markAll indices inputs tensors
  rw [hinputs] at hmarks
  generalize OpsBuilder.tensorsAt (markAll indices tensors) inputs = marked at hmarks
  obtain ⟨x', marked, rfl, hx, hmarks⟩ := List.map_eq_cons_iff.mp hmarks
  obtain ⟨gamma', marked, rfl, hgamma, hmarks⟩ := List.map_eq_cons_iff.mp hmarks
  obtain ⟨beta', marked, rfl, hbeta, hmarks⟩ := List.map_eq_cons_iff.mp hmarks
  obtain rfl := List.map_eq_nil_iff.mp hmarks
  have hdims : ∀ {t u : Tensor}, t.identifyOpParameter = u.identifyOpParameter →
      t.dimensions = u.dimensions := fun h => congrArg (·.dimensions) h
  obtain ⟨ret, hret, hiff⟩ := checkShapes_iff s x' gamma' beta'
  refine ⟨ret, hret, hiff.trans ?_⟩
  unfold Consistent
  rw [hdims hx, hdims hgamma, hdims hbeta]

/-- **`Build` accepts exactly the consistent shapes.** -/
theorem layerNorm_build_iff {params inputs outputs : List Nat} {tensors : List Tensor}
    {ps : List Param} {x gamma beta : Tensor}
    (hio : checkIOIndex 3 1 inputs outputs tensors = .success)
    (hparam : checkParamIndex 3 params tensors = .success)
    (hinputs : OpsBuilder.tensorsAt tensors inputs = [x, gamma, beta])
    (hps : List.Forall₂ (fun t p => decode readings t = .ok p)
      (OpsBuilder.tensorsAt tensors params) ps) :
    ∃ r tensors', layerNormBuilder.build params inputs outputs tensors = .ok (r, tensors') ∧
      ((∃ op, r = .ok op) ↔ Consistent (normAxis ps) x gamma beta) := by
  have hbegins : layerNormBuilder.begins params inputs outputs tensors = .ok (.ok {}) := by
    show (if checkIOIndex 3 1 inputs outputs tensors ≠ .success then _ else
      if checkParamIndex 3 params tensors ≠ .success then _ else _ : Except Fault _) = _
    rw [hio, hparam]
    rfl
  have hrun : Writes.run (decode readings) (fun s p => .ok (put s p)) ({} : LayerNorm)
      (OpsBuilder.tensorsAt tensors params) = .ok (ps.foldl put {}) :=
    Writes.run_total_iff.mpr ⟨ps, hps, rfl⟩
  -- What is left of `Build` is the comparison of the shapes.
  obtain ⟨ret, hcheck, hiff⟩ := checkShapes_markAll (ps.foldl put {})
    (layerNormBuilder.marksOf params tensors) inputs hinputs
  rw [foldl_put_axis] at hiff
  obtain ⟨quantType, hquant⟩ := OpsBuilder.quantTypeOf_of_checkIOIndex (length_markAll
    (layerNormBuilder.marksOf params tensors) tensors) hio
  obtain ⟨r, hfinish, hok⟩ := OpsBuilder.finish_iff (b := layerNormBuilder) hcheck
    (by exact hquant)
  have hresult : layerNormBuilder.result params inputs outputs tensors = _ :=
    OpsBuilder.result_of_goesBy goesBy_readings (fun _ => Iff.rfl) fun _ _ => trivial
  rw [hbegins] at hresult
  dsimp only at hresult
  rw [hrun] at hresult
  obtain ⟨p, hbuild, hp⟩ := bind_eq_ok (hresult.trans (congrArg (· >>= _) hfinish))
  obtain ⟨r', tensors'⟩ := p
  refine ⟨r', tensors', hbuild, Iff.trans ?_ (hok.trans hiff)⟩
  have hsame : r'.map (·, tensors') = r.map (·, _) := Except.ok.inj hp
  cases r' with
  | error ret' =>
    cases r with
    | error _ => exact iff_of_false (fun ⟨_, h⟩ => nomatch h) fun ⟨_, h⟩ => nomatch h
    | ok op => cases hsame
  | ok op' =>
    cases r with
    | error _ => cases hsame
    | ok op => exact iff_of_true ⟨_, rfl⟩ ⟨_, rfl⟩

/-- An input of two rows, with gamma and beta for its rows and an axis. -/
def normalisation (axis : UInt8) : List Tensor :=
  [{ dimensions := [2, 3] }, { dimensions := [3] }, { dimensions := [3] }, { dimensions := [2, 3] },
    { tensorType := .layerNormBeginNormAxis, dataType := .int64, elementCount := 1,
      buffer := some [axis, 0, 0, 0, 0, 0, 0, 0] }]

theorem layerNorm_build_iff_rows : ∃ op tensors',
    layerNormBuilder.build [4] [0, 1, 2] [3] (normalisation 1) = .ok (.ok op, tensors') := by
  obtain ⟨r, tensors', hbuild, hiff⟩ := layerNorm_build_iff
    (show checkIOIndex 3 1 [0, 1, 2] [3] (normalisation 1) = .success from rfl)
    (show checkParamIndex 3 [4] (normalisation 1) = .success from rfl) rfl
    (.cons (show decode readings _ = .ok (.beginNormAxis 1) from rfl) .nil)
  obtain ⟨op, rfl⟩ := hiff.mpr ⟨by decide, rfl, rfl⟩
  exact ⟨op, tensors', hbuild⟩

end LayerNorm

end NNRt.Ops
