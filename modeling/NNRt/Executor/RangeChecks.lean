import NNRt.Executor.Calls

/-!
# The two checks of the ranges

The dimensions of an input are checked against the ranges of the device by `SetInput` and by
`RunSync`, which do not share their code. Only the former looks at the ranks first.

- `dimsWithin_success_iff`: when the loop of `RunSync` accepts.
- `readInputDimRange_eq`: the loop of `SetInput` reads nothing that is not there.
- `rangeChecksAgree_iff`: **when the checks agree and neither reads beyond the ranges.**
-/

namespace NNRt

/-- A dimension is in its range. -/
def InRange (dim : Int32) (min max : UInt32) : Prop :=
  0 ≤ dim ∧ min ≤ dim.toUInt32 ∧ dim.toUInt32 ≤ max

/-- The shape of an input, and its ranges. -/
structure RangedShape where
  shape : List Int32
  mins : List UInt32
  maxs : List UInt32

namespace RangedShape

/-- The ranges have the rank of the shape. -/
def SameRanks (r : RangedShape) : Prop :=
  r.mins.length = r.shape.length ∧ r.maxs.length = r.shape.length

/-- The dimension at a position has a range, and is in it. -/
def GoodAt (r : RangedShape) (j : Nat) (dim : Int32) : Prop :=
  ∃ min ∈ r.mins[j]?, ∃ max ∈ r.maxs[j]?, InRange dim min max

/-- The dimension at a position is negative, or it has a range and is not in it. -/
def BadAt (r : RangedShape) (j : Nat) (dim : Int32) : Prop :=
  dim < 0 ∨ ∃ min ∈ r.mins[j]?, ∃ max ∈ r.maxs[j]?, ¬ InRange dim min max

/-- All dimensions are good. -/
def Within (r : RangedShape) : Prop :=
  ∀ j dim, r.shape[j]? = some dim → r.GoodAt j dim

/-- Some dimension is bad, and those in front of it are good. -/
def Refused (r : RangedShape) : Prop :=
  ∃ j dim, r.shape[j]? = some dim ∧ r.BadAt j dim ∧
    ∀ k < j, ∀ dim, r.shape[k]? = some dim → r.GoodAt k dim

/-- All but the first dimension. -/
def tail (r : RangedShape) : RangedShape :=
  ⟨r.shape.tail, r.mins.tail, r.maxs.tail⟩

theorem goodAt_tail (r : RangedShape) (j : Nat) (dim : Int32) :
    r.tail.GoodAt j dim ↔ r.GoodAt (j + 1) dim := by
  simp [GoodAt, tail]

theorem badAt_tail (r : RangedShape) (j : Nat) (dim : Int32) :
    r.tail.BadAt j dim ↔ r.BadAt (j + 1) dim := by
  simp [BadAt, tail]

theorem within_cons {dim : Int32} {dims : List Int32} {mins maxs : List UInt32} :
    Within ⟨dim :: dims, mins, maxs⟩ ↔
      GoodAt ⟨dim :: dims, mins, maxs⟩ 0 dim ∧ Within ⟨dims, mins.tail, maxs.tail⟩ := by
  constructor
  · intro h
    exact ⟨h 0 dim rfl, fun j d hd =>
      (goodAt_tail ⟨dim :: dims, mins, maxs⟩ j d).mpr (h (j + 1) d hd)⟩
  · rintro ⟨hfirst, hrest⟩ j d hd
    cases j with
    | zero =>
      cases hd
      exact hfirst
    | succ j => exact (goodAt_tail ⟨dim :: dims, mins, maxs⟩ j d).mp (hrest j d hd)

theorem refused_cons {dim : Int32} {dims : List Int32} {mins maxs : List UInt32} :
    Refused ⟨dim :: dims, mins, maxs⟩ ↔
      BadAt ⟨dim :: dims, mins, maxs⟩ 0 dim ∨
        GoodAt ⟨dim :: dims, mins, maxs⟩ 0 dim ∧ Refused ⟨dims, mins.tail, maxs.tail⟩ := by
  constructor
  · rintro ⟨j, d, hd, hbad, hgood⟩
    cases j with
    | zero =>
      cases hd
      exact Or.inl hbad
    | succ j =>
      refine Or.inr ⟨hgood 0 j.succ_pos dim rfl, j, d, hd, (badAt_tail _ j d).mpr hbad, ?_⟩
      intro k hk d' hd'
      exact (goodAt_tail ⟨dim :: dims, mins, maxs⟩ k d').mpr (hgood (k + 1) (by omega) d' hd')
  · rintro (hbad | ⟨hfirst, j, d, hd, hbad, hgood⟩)
    · exact ⟨0, dim, rfl, hbad, fun k hk => absurd hk (Nat.not_lt_zero k)⟩
    · refine ⟨j + 1, d, hd, (badAt_tail ⟨dim :: dims, mins, maxs⟩ j d).mp hbad,
        fun k hk d' hd' => ?_⟩
      cases k with
      | zero =>
        cases hd'
        exact hfirst
      | succ k =>
        exact (goodAt_tail ⟨dim :: dims, mins, maxs⟩ k d').mp (hgood k (by omega) d' hd')

theorem not_goodAt_of_badAt {r : RangedShape} {j : Nat} {dim : Int32} (h : r.BadAt j dim) :
    ¬ r.GoodAt j dim := by
  rintro ⟨min, hmin, max, hmax, hrange⟩
  rcases h with hneg | ⟨min', hmin', max', hmax', hout⟩
  · exact Int32.not_le.mpr hneg hrange.1
  · cases Option.mem_unique hmin hmin'
    cases Option.mem_unique hmax hmax'
    exact hout hrange

theorem not_within_of_refused {r : RangedShape} (h : r.Refused) : ¬ r.Within := by
  obtain ⟨j, dim, hdim, hbad, -⟩ := h
  exact fun hwithin => not_goodAt_of_badAt hbad (hwithin j dim hdim)

end RangedShape

namespace NNExecutor

open RangedShape (within_cons refused_cons not_within_of_refused)

/-! ## The loop over the dimensions -/

/-- **How the loop ends**: all dimensions are good, or the first that is not is bad, or it has
no range. -/
theorem dimsWithin_ends (dims : List Int32) (mins maxs : List UInt32) :
    (dimsWithin dims mins maxs = .ok .success ∧ RangedShape.Within ⟨dims, mins, maxs⟩) ∨
    (dimsWithin dims mins maxs = .ok .invalidParameter ∧
      RangedShape.Refused ⟨dims, mins, maxs⟩) ∨
    (dimsWithin dims mins maxs = .error .outOfBounds ∧
      ¬ RangedShape.Within ⟨dims, mins, maxs⟩ ∧ ¬ RangedShape.Refused ⟨dims, mins, maxs⟩) := by
  induction dims generalizing mins maxs with
  | nil => exact Or.inl ⟨rfl, fun j dim hdim => nomatch hdim⟩
  | cons dim dims ih =>
    unfold dimsWithin
    by_cases hneg : dim < 0
    · rw [if_pos hneg]
      exact Or.inr (Or.inl ⟨rfl, refused_cons.mpr (Or.inl (Or.inl hneg))⟩)
    rw [if_neg hneg]
    -- A dimension without a range is neither good nor bad.
    have hstray : ¬ (∃ min ∈ mins[0]?, ∃ max ∈ maxs[0]?, True) →
        ¬ RangedShape.Within ⟨dim :: dims, mins, maxs⟩ ∧
          ¬ RangedShape.Refused ⟨dim :: dims, mins, maxs⟩ := by
      intro hnone
      refine ⟨fun hwithin => ?_, fun hrefused => ?_⟩
      · obtain ⟨⟨min, hmin, max, hmax, -⟩, -⟩ := within_cons.mp hwithin
        exact hnone ⟨min, hmin, max, hmax, trivial⟩
      · rcases refused_cons.mp hrefused with (hbad | ⟨min, hmin, max, hmax, -⟩) |
          ⟨⟨min, hmin, max, hmax, -⟩, -⟩
        · exact hneg hbad
        · exact hnone ⟨min, hmin, max, hmax, trivial⟩
        · exact hnone ⟨min, hmin, max, hmax, trivial⟩
    cases mins with
    | nil => exact Or.inr (Or.inr ⟨rfl, hstray fun ⟨_, hmin, _⟩ => nomatch hmin⟩)
    | cons min mins =>
      cases maxs with
      | nil => exact Or.inr (Or.inr ⟨rfl, hstray fun ⟨_, _, _, hmax, _⟩ => nomatch hmax⟩)
      | cons max maxs =>
        dsimp only
        by_cases hout : dim.toUInt32 < min ∨ dim.toUInt32 > max
        · rw [if_pos hout]
          refine Or.inr (Or.inl ⟨rfl, refused_cons.mpr (Or.inl (Or.inr ?_))⟩)
          refine ⟨min, rfl, max, rfl, fun hrange => ?_⟩
          rcases hout with hlow | hhigh
          · exact UInt32.not_le.mpr hlow hrange.2.1
          · exact UInt32.not_le.mpr hhigh hrange.2.2
        · rw [if_neg hout]
          obtain ⟨hlow, hhigh⟩ := not_or.mp hout
          have hgood : RangedShape.GoodAt ⟨dim :: dims, min :: mins, max :: maxs⟩ 0 dim :=
            ⟨min, rfl, max, rfl, Int32.not_lt.mp hneg, UInt32.not_lt.mp hlow,
              UInt32.not_lt.mp hhigh⟩
          have hnot := @RangedShape.not_goodAt_of_badAt
            ⟨dim :: dims, min :: mins, max :: maxs⟩ 0 dim
          rw [within_cons, refused_cons]
          rcases ih mins maxs with ⟨hloop, hwithin⟩ | ⟨hloop, hrefused⟩ | ⟨hloop, hwithin, hrefused⟩
          · exact Or.inl ⟨hloop, hgood, hwithin⟩
          · exact Or.inr (Or.inl ⟨hloop, Or.inr ⟨hgood, hrefused⟩⟩)
          · refine Or.inr (Or.inr ⟨hloop, fun h => hwithin h.2, ?_⟩)
            rintro (hbad | ⟨-, h⟩)
            · exact hnot hbad hgood
            · exact hrefused h

theorem dimsWithin_success_iff {r : RangedShape} :
    dimsWithin r.shape r.mins r.maxs = .ok .success ↔ r.Within := by
  rcases dimsWithin_ends r.shape r.mins r.maxs with ⟨hloop, hwithin⟩ | ⟨hloop, hrefused⟩ |
    ⟨hloop, hwithin, -⟩
  · exact iff_of_true hloop hwithin
  · exact iff_of_false (by rw [hloop]; nofun) (not_within_of_refused hrefused)
  · exact iff_of_false (by rw [hloop]; nofun) hwithin

/-- Where the ranges have the rank of the shape, the two loops are one. -/
theorem dimsWithin_of_ranks {dims : List Int32} {mins maxs : List UInt32}
    (hmins : mins.length = dims.length) (hmaxs : maxs.length = dims.length) :
    dimsWithin dims mins maxs =
      .ok (if dimsInRange dims mins maxs then .success else .invalidParameter) := by
  induction dims generalizing mins maxs with
  | nil => rfl
  | cons dim dims ih =>
    obtain ⟨min, mins, rfl⟩ := List.exists_cons_of_length_eq_add_one hmins
    obtain ⟨max, maxs, rfl⟩ := List.exists_cons_of_length_eq_add_one hmaxs
    unfold dimsWithin dimsInRange
    dsimp only
    by_cases hneg : dim < 0
    · rw [if_pos hneg, if_pos hneg]
      rfl
    rw [if_neg hneg, if_neg hneg]
    by_cases hout : dim.toUInt32 < min ∨ dim.toUInt32 > max
    · rw [if_pos hout, if_pos hout]
      rfl
    · rw [if_neg hout, if_neg hout]
      exact ih (Nat.succ.inj hmins) (Nat.succ.inj hmaxs)

/-- Then every dimension has its range. -/
theorem within_or_refused {r : RangedShape} (hranks : r.SameRanks) : r.Within ∨ r.Refused := by
  rcases dimsWithin_ends r.shape r.mins r.maxs with ⟨-, hwithin⟩ | ⟨-, hrefused⟩ | ⟨hloop, -, -⟩
  · exact Or.inl hwithin
  · exact Or.inr hrefused
  · rw [dimsWithin_of_ranks hranks.1 hranks.2] at hloop
    cases hloop

/-! ## The check of `SetInput` -/

/-- `CheckInputDimRanges` of one input with the reads of its loop, which is that of
`CheckDimRanges`. -/
def readInputDimRange (e : NNExecutor) (env : ExecutorEnv) (index : Nat) (nnTensor : OHNNTensor) :
    Except Fault ReturnCode :=
  match e.preparedModel with
  | none => .error (.nullDeref .preparedModel)
  | some _ =>
    if env.dimRanges.code ≠ .success then .ok env.dimRanges.code
    else
      match env.dimRanges.minInputDims[index]?, env.dimRanges.maxInputDims[index]? with
      | some mins, some maxs =>
        let tensorShape := nnTensor.dimensions.toVector
        if mins.length ≠ tensorShape.length ∨ maxs.length ≠ tensorShape.length then
          .ok .invalidParameter
        else dimsWithin tensorShape mins maxs
      | _, _ => .ok .invalidParameter

/-- **The loop of `SetInput` reads nothing that is not there.** -/
theorem readInputDimRange_eq (e : NNExecutor) (env : ExecutorEnv) (index : Nat)
    (nnTensor : OHNNTensor) :
    e.readInputDimRange env index nnTensor = e.checkInputDimRange env index nnTensor := by
  unfold readInputDimRange checkInputDimRange
  cases e.preparedModel with
  | none => rfl
  | some preparedModel =>
    dsimp only
    by_cases hcode : env.dimRanges.code ≠ .success
    · rw [if_pos hcode, if_pos hcode]
    rw [if_neg hcode, if_neg hcode]
    cases env.dimRanges.minInputDims[index]? with
    | none => rfl
    | some mins =>
      cases env.dimRanges.maxInputDims[index]? with
      | none => rfl
      | some maxs =>
        dsimp only
        by_cases hranks : mins.length ≠ nnTensor.dimensions.toVector.length ∨
            maxs.length ≠ nnTensor.dimensions.toVector.length
        · rw [if_pos hranks, if_pos hranks]
        · obtain ⟨hmins, hmaxs⟩ := not_or.mp hranks
          rw [if_neg hranks, if_neg hranks,
            dimsWithin_of_ranks (not_not.mp hmins) (not_not.mp hmaxs)]
          split <;> rfl

section Checks

variable {e : NNExecutor} {w : World} {env : ExecutorEnv} {inputs : List (Option Nat)}
  {nnTensors : List OHNNTensor} {minDims maxDims : List (List UInt32)}

/-- Once the device has answered, the check of one input answers as well. -/
theorem checkInputDimRange_success_iff (hmodel : e.preparedModel.isSome = true)
    (hcode : env.dimRanges.code = .success) {index : Nat} {nnTensor : OHNNTensor}
    {mins maxs : List UInt32} (hmins : env.dimRanges.minInputDims[index]? = some mins)
    (hmaxs : env.dimRanges.maxInputDims[index]? = some maxs) :
    e.checkInputDimRange env index nnTensor = .ok .success ↔
      RangedShape.SameRanks ⟨nnTensor.dimensions.toVector, mins, maxs⟩ ∧
        RangedShape.Within ⟨nnTensor.dimensions.toVector, mins, maxs⟩ := by
  obtain ⟨preparedModel, hsome⟩ := Option.isSome_iff_exists.mp hmodel
  rw [← readInputDimRange_eq]
  unfold readInputDimRange
  rw [hsome]
  dsimp only
  rw [if_neg (not_not.mpr hcode), hmins, hmaxs]
  dsimp only
  by_cases hranks : mins.length ≠ nnTensor.dimensions.toVector.length ∨
      maxs.length ≠ nnTensor.dimensions.toVector.length
  · rw [if_pos hranks]
    exact iff_of_false nofun fun h => hranks.elim (· h.1.1) (· h.1.2)
  · rw [if_neg hranks]
    obtain ⟨hmins, hmaxs⟩ := not_or.mp hranks
    exact (dimsWithin_success_iff (r := ⟨nnTensor.dimensions.toVector, mins, maxs⟩)).trans
      (and_iff_right ⟨not_not.mp hmins, not_not.mp hmaxs⟩).symm

theorem checkInputDimRange_ne_error (hmodel : e.preparedModel.isSome = true) (index : Nat)
    (nnTensor : OHNNTensor) (fault : Fault) :
    e.checkInputDimRange env index nnTensor ≠ .error fault := by
  obtain ⟨preparedModel, hsome⟩ := Option.isSome_iff_exists.mp hmodel
  unfold checkInputDimRange
  rw [hsome]
  dsimp only
  split
  · nofun
  split
  · split
    · nofun
    split <;> nofun
  · nofun

/-! ## The loop over the inputs -/

/-- An input of `RunSync` is a tensor with the shape that `SetInput` is given. -/
def SameShape (w : World) (input : Option Nat) (nnTensor : OHNNTensor) : Prop :=
  ∃ address t desc, input = some address ∧ w.tensors[address]? = some t ∧
    t.tensorDesc = some desc ∧ desc.shape = nnTensor.dimensions.toVector

/-- The shapes with their ranges. -/
def rangedShapes (nnTensors : List OHNNTensor) (minDims maxDims : List (List UInt32)) :
    List RangedShape :=
  (nnTensors.zip (minDims.zip maxDims)).map fun p => ⟨p.1.dimensions.toVector, p.2.1, p.2.2⟩

/-- Some shape is refused, and those in front of it are within their ranges. -/
def FirstRefused (shapes : List RangedShape) : Prop :=
  ∃ before r after, shapes = before ++ r :: after ∧ r.Refused ∧ ∀ r' ∈ before, r'.Within

theorem firstRefused_cons {r : RangedShape} {shapes : List RangedShape} :
    FirstRefused (r :: shapes) ↔ r.Refused ∨ r.Within ∧ FirstRefused shapes := by
  constructor
  · rintro ⟨before, r', after, heq, hrefused, hbefore⟩
    cases before with
    | nil =>
      cases heq
      exact Or.inl hrefused
    | cons _ before =>
      cases heq
      exact Or.inr ⟨hbefore r List.mem_cons_self, before, r', after, rfl, hrefused, fun r'' hr'' =>
        hbefore r'' (List.mem_cons_of_mem _ hr'')⟩
  · rintro (hrefused | ⟨hwithin, before, r', after, rfl, hrefused, hbefore⟩)
    · exact ⟨[], r, shapes, rfl, hrefused, fun _ hr' => nomatch hr'⟩
    · exact ⟨r :: before, r', after, rfl, hrefused, List.forall_mem_cons.mpr ⟨hwithin, hbefore⟩⟩

/-- A refused shape is not within its ranges. -/
theorem not_within_of_firstRefused {shapes : List RangedShape} (h : FirstRefused shapes) :
    ¬ ∀ r ∈ shapes, r.Within := by
  obtain ⟨before, r, after, rfl, hrefused, -⟩ := h
  exact fun hwithin => not_within_of_refused hrefused
    (hwithin r (List.mem_append_right _ List.mem_cons_self))

/-- Where all ranks agree, one shape is the first to be refused, or none is. -/
theorem within_or_firstRefused {shapes : List RangedShape} (hranks : ∀ r ∈ shapes, r.SameRanks) :
    (∀ r ∈ shapes, r.Within) ∨ FirstRefused shapes := by
  induction shapes with
  | nil => exact Or.inl fun _ hr => nomatch hr
  | cons r shapes ih =>
    obtain ⟨hr, hranks⟩ := List.forall_mem_cons.mp hranks
    rw [List.forall_mem_cons, firstRefused_cons]
    rcases within_or_refused hr with hwithin | hrefused
    · exact (ih hranks).imp (fun hrest => ⟨hwithin, hrest⟩) fun hrest => Or.inr ⟨hwithin, hrest⟩
    · exact Or.inr (Or.inl hrefused)

/-- **How the loop ends**, as for the dimensions of one input. -/
theorem checkInputsLoop_ends (hshapes : List.Forall₂ (SameShape w) inputs nnTensors)
    (hmins : minDims.length = inputs.length) (hmaxs : maxDims.length = inputs.length) :
    (checkInputsLoop w inputs minDims maxDims = .ok .success ∧
      ∀ r ∈ rangedShapes nnTensors minDims maxDims, r.Within) ∨
    (checkInputsLoop w inputs minDims maxDims = .ok .invalidParameter ∧
      FirstRefused (rangedShapes nnTensors minDims maxDims)) ∨
    (checkInputsLoop w inputs minDims maxDims = .error .outOfBounds ∧
      ¬ (∀ r ∈ rangedShapes nnTensors minDims maxDims, r.Within) ∧
      ¬ FirstRefused (rangedShapes nnTensors minDims maxDims)) := by
  induction hshapes generalizing minDims maxDims with
  | nil => exact Or.inl ⟨rfl, fun _ hr => nomatch hr⟩
  | @cons input nnTensor inputs nnTensors hshape _ ih =>
    obtain ⟨address, t, desc, rfl, ht, hdesc, hsame⟩ := hshape
    obtain ⟨mins, minDims, rfl⟩ := List.exists_cons_of_length_eq_add_one hmins
    obtain ⟨maxs, maxDims, rfl⟩ := List.exists_cons_of_length_eq_add_one hmaxs
    have hcons : rangedShapes (nnTensor :: nnTensors) (mins :: minDims) (maxs :: maxDims) =
        ⟨nnTensor.dimensions.toVector, mins, maxs⟩ :: rangedShapes nnTensors minDims maxDims := rfl
    have hcheck : checkDimRanges t mins maxs =
        dimsWithin nnTensor.dimensions.toVector mins maxs := by
      unfold checkDimRanges
      rw [hdesc, ← hsame]
    rw [hcons, List.forall_mem_cons, firstRefused_cons]
    unfold checkInputsLoop
    dsimp only
    rw [ht]
    dsimp only
    rw [hcheck]
    rcases dimsWithin_ends nnTensor.dimensions.toVector mins maxs with ⟨hloop, hwithin⟩ |
      ⟨hloop, hrefused⟩ | ⟨hloop, hwithin, hrefused⟩
    · rw [hloop]
      rcases ih (Nat.succ.inj hmins) (Nat.succ.inj hmaxs) with ⟨hrest, hall⟩ | ⟨hrest, hfirst⟩ |
        ⟨hrest, hall, hfirst⟩
      · exact Or.inl ⟨hrest, hwithin, hall⟩
      · exact Or.inr (Or.inl ⟨hrest, Or.inr ⟨hwithin, hfirst⟩⟩)
      · refine Or.inr (Or.inr ⟨hrest, fun h => hall h.2, ?_⟩)
        rintro (hrefused | ⟨-, h⟩)
        · exact not_within_of_refused hrefused hwithin
        · exact hfirst h
    · rw [hloop]
      exact Or.inr (Or.inl ⟨rfl, Or.inl hrefused⟩)
    · rw [hloop]
      refine Or.inr (Or.inr ⟨rfl, fun h => hwithin h.1, ?_⟩)
      rintro (h | ⟨h, -⟩)
      · exact hrefused h
      · exact hwithin h

/-! ## Agreement -/

/-- The checks of `RunSync` and `SetInput` succeed for the same inputs, and neither reads
what is not there. -/
structure RangeChecksAgree (e : NNExecutor) (w : World) (env : ExecutorEnv)
    (inputs : List (Option Nat)) (nnTensors : List OHNNTensor) : Prop where
  runSync : ∀ fault, e.checkInputDimRanges w env inputs ≠ .error fault
  setInput : ∀ index nnTensor, nnTensors[index]? = some nnTensor →
    ∀ fault, e.readInputDimRange env index nnTensor ≠ .error fault
  iff : e.checkInputDimRanges w env inputs = .ok .success ↔
    ∀ index nnTensor, nnTensors[index]? = some nnTensor →
      e.checkInputDimRange env index nnTensor = .ok .success

/-- `SetInput` takes every input with its shape. -/
theorem checkInputDimRange_all_iff (hmodel : e.preparedModel.isSome = true)
    (hcode : env.dimRanges.code = .success)
    (hmins : env.dimRanges.minInputDims.length = nnTensors.length)
    (hmaxs : env.dimRanges.maxInputDims.length = nnTensors.length) :
    (∀ index nnTensor, nnTensors[index]? = some nnTensor →
      e.checkInputDimRange env index nnTensor = .ok .success) ↔
    ∀ r ∈ rangedShapes nnTensors env.dimRanges.minInputDims env.dimRanges.maxInputDims,
      r.SameRanks ∧ r.Within := by
  unfold rangedShapes
  rw [List.forall_mem_map]
  constructor
  · intro hall p hp
    obtain ⟨index, hindex⟩ := List.getElem?_of_mem hp
    obtain ⟨hnnTensor, hranges⟩ := List.getElem?_zip_eq_some.mp hindex
    obtain ⟨hmin, hmax⟩ := List.getElem?_zip_eq_some.mp hranges
    exact (checkInputDimRange_success_iff hmodel hcode hmin hmax).mp (hall index p.1 hnnTensor)
  · intro hall index nnTensor hnnTensor
    obtain ⟨hlt, -⟩ := List.getElem?_eq_some_iff.mp hnnTensor
    have hmin := List.getElem?_eq_getElem (hmins.symm ▸ hlt)
    have hmax := List.getElem?_eq_getElem (hmaxs.symm ▸ hlt)
    refine (checkInputDimRange_success_iff hmodel hcode hmin hmax).mpr
      (hall (nnTensor, _, _) (List.mem_of_getElem? (i := index) ?_))
    exact List.getElem?_zip_eq_some.mpr ⟨hnnTensor, List.getElem?_zip_eq_some.mpr ⟨hmin, hmax⟩⟩

/-- **When the two checks agree**: the ranges of every input have the rank of its shape; or one
input is refused for a dimension that is negative or out of the range that is there, and all
dimensions looked at before it are in theirs. -/
theorem rangeChecksAgree_iff (hmodel : e.preparedModel.isSome = true)
    (hcode : env.dimRanges.code = .success)
    (hmins : env.dimRanges.minInputDims.length = inputs.length)
    (hmaxs : env.dimRanges.maxInputDims.length = inputs.length)
    (hshapes : List.Forall₂ (SameShape w) inputs nnTensors) :
    RangeChecksAgree e w env inputs nnTensors ↔
      (∀ r ∈ rangedShapes nnTensors env.dimRanges.minInputDims env.dimRanges.maxInputDims,
        r.SameRanks) ∨
      FirstRefused
        (rangedShapes nnTensors env.dimRanges.minInputDims env.dimRanges.maxInputDims) := by
  have hloop : e.checkInputDimRanges w env inputs =
      checkInputsLoop w inputs env.dimRanges.minInputDims env.dimRanges.maxInputDims := by
    obtain ⟨preparedModel, hsome⟩ := Option.isSome_iff_exists.mp hmodel
    unfold checkInputDimRanges
    rw [hsome]
    dsimp only
    rw [if_neg (not_not.mpr hcode), if_neg (not_not.mpr hmins.symm),
      if_neg (not_not.mpr hmaxs.symm)]
  have hset : ∀ index nnTensor, nnTensors[index]? = some nnTensor →
      ∀ fault, e.readInputDimRange env index nnTensor ≠ .error fault := by
    intro index nnTensor _ fault
    rw [readInputDimRange_eq]
    exact checkInputDimRange_ne_error hmodel index nnTensor fault
  have hall := checkInputDimRange_all_iff hmodel hcode (hmins.trans hshapes.length_eq)
    (hmaxs.trans hshapes.length_eq)
  rcases checkInputsLoop_ends hshapes hmins hmaxs with ⟨hends, hwithin⟩ | ⟨hends, hfirst⟩ |
    ⟨hends, hwithin, hfirst⟩
  · -- `RunSync` goes on, and the ranks decide what `SetInput` does.
    constructor
    · intro hagree
      exact Or.inl fun r hr => (hall.mp (hagree.iff.mp (hloop.trans hends)) r hr).1
    · rintro (hranks | hfirst)
      · refine ⟨fun fault => by rw [hloop, hends]; nofun, hset, iff_of_true (hloop.trans hends) ?_⟩
        exact hall.mpr fun r hr => ⟨hranks r hr, hwithin r hr⟩
      · exact absurd hwithin (not_within_of_firstRefused hfirst)
  · refine iff_of_true ⟨fun fault => by rw [hloop, hends]; nofun, hset, ?_⟩ (Or.inr hfirst)
    refine iff_of_false (by rw [hloop, hends]; nofun) fun hsucceed => ?_
    exact not_within_of_firstRefused hfirst fun r hr => (hall.mp hsucceed r hr).2
  · refine iff_of_false (fun hagree => hagree.runSync _ (hloop.trans hends)) ?_
    rintro (hranks | h)
    · exact (within_or_firstRefused hranks).elim hwithin hfirst
    · exact hfirst h

end Checks

/-- An executor of the small model, and a user with one tensor of two floats. -/
def rangedExecutor : NNExecutor :=
  .create ((smallCompiler [2]).share {}).1 ⟨0, (.success, []), .success⟩

def rangedWorld : World :=
  { ((smallCompiler [2]).share {}).2 with
    tensors := [{ tensorDesc := some (.floats 2), size := 8 }] }

def twoFloats : OHNNTensor where
  dataType := some .float32
  dimensions := .array [2]

/-- The ranges of the one input. -/
def oneRange (mins maxs : List UInt32) : ExecutorEnv where
  dimRanges := { code := .success, minInputDims := [mins], maxInputDims := [maxs] }

/-- The tensor of the user has the shape. -/
theorem twoFloats_shape : List.Forall₂ (SameShape rangedWorld) [some 0] [twoFloats] :=
  .cons ⟨0, _, _, rfl, rfl, rfl, rfl⟩ .nil

/-- A range for each dimension. -/
theorem rangeChecksAgree_iff_oneDim :
    RangeChecksAgree rangedExecutor rangedWorld (oneRange [1] [3]) [some 0] [twoFloats] ↔
      (∀ r ∈ rangedShapes [twoFloats] [[1]] [[3]], r.SameRanks) ∨
        FirstRefused (rangedShapes [twoFloats] [[1]] [[3]]) :=
  rangeChecksAgree_iff rfl rfl rfl rfl twoFloats_shape

/-- Of ranges of another rank, `RunSync` takes the first ones, or reads behind the last. -/
theorem rangeChecks_disagree :
    rangedExecutor.checkInputDimRanges rangedWorld (oneRange [1, 5] [3, 5]) [some 0] =
        .ok .success ∧
      rangedExecutor.checkInputDimRange (oneRange [1, 5] [3, 5]) 0 twoFloats =
        .ok .invalidParameter ∧
      rangedExecutor.checkInputDimRanges rangedWorld (oneRange [] []) [some 0] =
        .error .outOfBounds ∧
      ¬ RangeChecksAgree rangedExecutor rangedWorld (oneRange [1, 5] [3, 5]) [some 0]
        [twoFloats] ∧
      ¬ RangeChecksAgree rangedExecutor rangedWorld (oneRange [] []) [some 0] [twoFloats] := by
  have hsync : rangedExecutor.checkInputDimRanges rangedWorld (oneRange [1, 5] [3, 5]) [some 0] =
      .ok .success := by decide
  have hset : rangedExecutor.checkInputDimRange (oneRange [1, 5] [3, 5]) 0 twoFloats =
      .ok .invalidParameter := by decide
  have hstray : rangedExecutor.checkInputDimRanges rangedWorld (oneRange [] []) [some 0] =
      .error .outOfBounds := by decide
  refine ⟨hsync, hset, hstray, fun hagree => ?_, fun hagree => hagree.runSync _ hstray⟩
  have hsucceeds := hagree.iff.mp hsync 0 twoFloats rfl
  rw [hset] at hsucceeds
  cases hsucceeds

end NNExecutor

end NNRt
