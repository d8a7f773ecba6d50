import NNRt.Core.NNTensor
import Mathlib.Algebra.Ring.Int.Defs

/-!
# The arithmetic of `ValidateDimensions`

The loop keeps two products in 64 bits and compares one of them, the length of the
data, with `UINT32_MAX`. The type size is what carries that bound over to the number
of elements, and `OH_NN_UNKNOWN` has none.

- `DimArithmetic`: what the loop is there for, on one list of dimensions.
- `productsFit_of_le`: a length that bounds the number of elements bounds every product.
- `dimArithmetic_iff`: **the arithmetic is right exactly if the type has a size, or the
  dimensions are so few and small that nothing is lost.**
-/

namespace NNRt

namespace NNTensor

variable {β : Type}

/-- The dimensions in front of the first one that is refused. -/
def readDims (dims : List Int32) : List Int32 :=
  dims.takeWhile fun dim => !decide (dim < -1 ∨ dim = 0)

/-- As far as the loop comes, both products stay below `2 ^ 64`. -/
def ProductsFit (st : DimState) : List Int32 → Prop
  | [] => True
  | dim :: dims =>
    if dim < -1 ∨ dim = 0 then True
    else
      st.elementCount.toNat * dim.toInt.natAbs < 2 ^ 64 ∧
        st.dataLength.toNat * dim.toInt.natAbs < 2 ^ 64 ∧
          (st.dataLength * UInt64.ofNat dim.toInt.natAbs ≤ 0xffffffff →
            ProductsFit
              { isDynamicShape := st.isDynamicShape || dim = -1
                elementCount := st.elementCount * UInt64.ofNat dim.toInt.natAbs
                dataLength := st.dataLength * UInt64.ofNat dim.toInt.natAbs } dims)

/-- What `ValidateDimensions` is to do with a list of dimensions. -/
structure DimArithmetic (t : NNTensor β) (dims : List Int32) : Prop where
  /-- It refuses what is no dimension, and what is too long. -/
  refuses : (t.validateDimensions dims).1 ≠ .success ↔
    (∃ dim ∈ dims, dim = 0 ∨ dim < -1) ∨
      ∃ before, before <+: dims ∧ 0xffffffff < dimsProduct before * t.dataType.typeSize.toNat
  /-- No product wraps around. -/
  fits : ProductsFit ⟨false, 1, t.dataType.typeSize.toUInt64⟩ dims
  /-- Without an unknown dimension both numbers are exact. -/
  exact : ∀ t', t.validateDimensions dims = (.success, t') → -1 ∉ dims →
    (t'.elementCount.toNat : Int) = (dims.map Int32.toInt).prod ∧
      (t'.dataLength : Int) = (dims.map Int32.toInt).prod * t.dataType.typeSize.toNat

/-! ## Products -/

@[simp] theorem dimsProduct_nil : dimsProduct [] = 1 := rfl

@[simp] theorem dimsProduct_cons (dim : Int32) (dims : List Int32) :
    dimsProduct (dim :: dims) = dim.toInt.natAbs * dimsProduct dims :=
  List.prod_cons

@[simp] theorem dimsProduct_append (dims dims' : List Int32) :
    dimsProduct (dims ++ dims') = dimsProduct dims * dimsProduct dims' := by
  unfold dimsProduct
  rw [List.map_append, List.prod_append]

theorem dimsValid_iff_forall_not {dims : List Int32} :
    DimsValid dims ↔ ¬ ∃ dim ∈ dims, dim = 0 ∨ dim < -1 := by
  rw [not_exists]
  constructor
  · rintro hvalid dim ⟨hmem, hbad⟩
    exact (dim_valid_iff dim).mpr (hvalid dim hmem) hbad.symm
  · intro hnone dim hmem
    exact (dim_valid_iff dim).mp fun hbad => hnone dim ⟨hmem, hbad.symm⟩

theorem dimsValid_readDims (dims : List Int32) : DimsValid (readDims dims) := by
  intro dim hmem
  have hpass := List.mem_takeWhile_imp hmem
  rw [Bool.not_eq_true', decide_eq_false_iff_not] at hpass
  exact (dim_valid_iff dim).mp hpass

/-- The beginnings of valid dimensions have smaller products. -/
theorem exists_prefix_lt_iff {dims : List Int32} (h : DimsValid dims) (bound size : Nat) :
    (∃ before, before <+: dims ∧ bound < dimsProduct before * size) ↔
      bound < dimsProduct dims * size := by
  constructor
  · rintro ⟨before, ⟨after, rfl⟩, hlt⟩
    have hafter : DimsValid after := fun dim hmem => h dim (List.mem_append_right _ hmem)
    rw [dimsProduct_append, Nat.mul_right_comm]
    exact hlt.trans_le (Nat.le_mul_of_pos_right _ (dimsProduct_pos hafter))
  · intro hlt
    exact ⟨dims, List.prefix_rfl, hlt⟩

/-- Without an unknown dimension the product is the product of the numbers. -/
theorem dimsProduct_eq_prod {dims : List Int32} (h : DimsValid dims) (hknown : -1 ∉ dims) :
    (dimsProduct dims : Int) = (dims.map Int32.toInt).prod := by
  induction dims with
  | nil => rfl
  | cons dim dims ih =>
    obtain ⟨hdim, hdims⟩ := List.forall_mem_cons.mp h
    have hne : dim ≠ -1 := fun heq => hknown (heq ▸ List.mem_cons_self)
    have hpos : 0 < dim.toInt := Int32.lt_iff_toInt_lt.mp (hdim.resolve_left hne)
    rw [dimsProduct_cons, Int.natCast_mul, ih hdims fun hmem => hknown (List.mem_cons_of_mem _ hmem),
      Int.natAbs_of_nonneg hpos.le, List.map_cons, List.prod_cons]

/-! ## The loop -/

/-- The number of elements, in the arithmetic of 64 bits. -/
theorem validateDimensionsLoop_elementCount {st st' : DimState} {dims : List Int32}
    (hloop : validateDimensionsLoop st dims = (.success, st')) :
    st'.elementCount = st.elementCount * UInt64.ofNat (dimsProduct dims) := by
  induction dims generalizing st with
  | nil =>
    cases hloop
    exact (UInt64.mul_one _).symm
  | cons dim dims ih =>
    unfold validateDimensionsLoop at hloop
    split at hloop
    · cases hloop
    dsimp only at hloop
    split at hloop
    · cases hloop
    rw [ih hloop, dimsProduct_cons, UInt64.ofNat_mul, UInt64.mul_assoc]

/-- The flag says whether a dimension is unknown. -/
theorem validateDimensionsLoop_isDynamicShape {st st' : DimState} {dims : List Int32}
    (hloop : validateDimensionsLoop st dims = (.success, st')) :
    st'.isDynamicShape = true ↔ st.isDynamicShape = true ∨ -1 ∈ dims := by
  induction dims generalizing st with
  | nil =>
    cases hloop
    rw [or_iff_left List.not_mem_nil]
  | cons dim dims ih =>
    unfold validateDimensionsLoop at hloop
    split at hloop
    · cases hloop
    dsimp only at hloop
    split at hloop
    · cases hloop
    rw [ih hloop, List.mem_cons, Bool.or_eq_true, decide_eq_true_eq, or_assoc, eq_comm (a := dim)]

/-- **A length that bounds the number of elements** bounds every product. -/
theorem productsFit_of_le {st : DimState} {dims : List Int32}
    (hcount : st.elementCount.toNat ≤ st.dataLength.toNat)
    (hle : st.dataLength.toNat ≤ 0xffffffff) : ProductsFit st dims := by
  induction dims generalizing st with
  | nil => trivial
  | cons dim dims ih =>
    have hdim := natAbs_le dim
    have hprod := Nat.mul_le_mul hle hdim
    have hprod' := Nat.mul_le_mul_right dim.toInt.natAbs hcount
    unfold ProductsFit
    split
    · trivial
    refine ⟨by omega, by omega, fun hsmall => ?_⟩
    have hmul := mul_toNat hle dim
    have hmul' := mul_toNat (hcount.trans hle) dim
    refine ih ?_ (UInt64.le_iff_toNat_le.mp hsmall)
    dsimp only
    rw [hmul, hmul']
    exact hprod'

/-- Without a length only the number of elements counts, and nothing bounds it. -/
theorem productsFit_zero_iff {st : DimState} {dims : List Int32}
    (hzero : st.dataLength = 0) (hpos : 0 < st.elementCount.toNat) :
    ProductsFit st dims ↔ st.elementCount.toNat * dimsProduct (readDims dims) < 2 ^ 64 := by
  induction dims generalizing st with
  | nil =>
    refine iff_of_true trivial ?_
    have hlt := st.elementCount.toNat_lt
    show st.elementCount.toNat * 1 < 2 ^ 64
    omega
  | cons dim dims ih =>
    unfold ProductsFit readDims
    by_cases hdim : dim < -1 ∨ dim = 0
    · rw [if_pos hdim, List.takeWhile_cons_of_neg (by simp [hdim])]
      refine iff_of_true trivial ?_
      have hlt := st.elementCount.toNat_lt
      show st.elementCount.toNat * 1 < 2 ^ 64
      omega
    rw [if_neg hdim, List.takeWhile_cons_of_pos (by simp [hdim]), dimsProduct_cons,
      ← Nat.mul_assoc, hzero]
    have habs := natAbs_pos ((dim_valid_iff dim).mp hdim)
    have hrest := dimsProduct_pos (dimsValid_readDims dims)
    have hnext : 0 < st.elementCount.toNat * dim.toInt.natAbs := Nat.mul_pos hpos habs
    -- Where the next product fits, it is the number of elements of the next round.
    have hstep : st.elementCount.toNat * dim.toInt.natAbs < 2 ^ 64 →
        (st.elementCount * UInt64.ofNat dim.toInt.natAbs).toNat
          = st.elementCount.toNat * dim.toInt.natAbs := by
      intro hfit
      have hle := natAbs_le dim
      rw [UInt64.toNat_mul, UInt64.toNat_ofNat_of_lt' (by show dim.toInt.natAbs < 2 ^ 64; omega),
        Nat.mod_eq_of_lt hfit]
    constructor
    · rintro ⟨hfit, -, hrec⟩
      have hrec := hrec (by rw [UInt64.zero_mul]; decide)
      rw [ih (by dsimp only; rw [UInt64.zero_mul]) (by dsimp only; rwa [hstep hfit])] at hrec
      dsimp only at hrec
      rwa [hstep hfit] at hrec
    · intro hall
      have hfit : st.elementCount.toNat * dim.toInt.natAbs < 2 ^ 64 :=
        (Nat.le_mul_of_pos_right _ hrest).trans_lt hall
      refine ⟨hfit, by rw [UInt64.toNat_zero, Nat.zero_mul]; decide, fun _ => ?_⟩
      rw [ih (by dsimp only; rw [UInt64.zero_mul]) (by dsimp only; rwa [hstep hfit])]
      dsimp only
      rwa [hstep hfit]

/-! ## `ValidateDimensions` -/

section Validate

variable {t t' : NNTensor β} {dims : List Int32}

/-- What an accepted list leaves in the tensor. -/
theorem validateDimensions_accepted (h : t.validateDimensions dims = (.success, t')) :
    (t'.isDynamicShape = true ↔ -1 ∈ dims) ∧
      (-1 ∉ dims → t'.elementCount.toNat = dimsProduct dims % 2 ^ 32) := by
  unfold validateDimensions at h
  split at h
  · cases h
  split at h
  · rename_i st hloop
    have hflag := validateDimensionsLoop_isDynamicShape hloop
    have hcount := validateDimensionsLoop_elementCount hloop
    rw [or_iff_right Bool.false_ne_true] at hflag
    split at h
    · rename_i hdynamic
      cases h
      exact ⟨iff_of_true rfl (hflag.mp hdynamic), fun hknown => absurd (hflag.mp hdynamic) hknown⟩
    · rename_i hstatic
      cases h
      refine ⟨iff_of_false Bool.false_ne_true (hstatic ∘ hflag.mpr), fun _ => ?_⟩
      show st.elementCount.toUInt32.toNat = _
      rw [hcount, UInt64.one_mul, UInt64.toNat_toUInt32, UInt64.toNat_ofNat']
      omega
  · rename_i hret _
    exact absurd h (code_ne hret)

/-- `ValidateDimensions` refuses exactly what it is to refuse. -/
theorem validateDimensions_refuses (hlength : dims.length ≤ dimMaxNum) :
    (t.validateDimensions dims).1 ≠ .success ↔
      (∃ dim ∈ dims, dim = 0 ∨ dim < -1) ∨
        ∃ before, before <+: dims ∧ 0xffffffff < dimsProduct before * t.dataType.typeSize.toNat := by
  rw [ne_eq, validateDimensions_success_iff hlength]
  by_cases hvalid : DimsValid dims
  · rw [exists_prefix_lt_iff hvalid, or_iff_right (dimsValid_iff_forall_not.mp hvalid),
      and_iff_right hvalid, Nat.not_le, Nat.mul_comm]
  · refine iff_of_true (fun hall => hvalid hall.1) (Or.inl ?_)
    by_contra hnone
    exact hvalid (dimsValid_iff_forall_not.mpr hnone)

/-- A type other than `OH_NN_UNKNOWN` takes a byte at least. -/
theorem typeSize_pos {dataType : DataType} (h : dataType ≠ .unknown) :
    0 < dataType.typeSize.toNat := by
  cases dataType <;> first | exact absurd rfl h | decide

/-- **When the arithmetic is right**: if the type has a size, or if neither the product
of the dimensions read leaves 64 bits nor that of accepted ones 32 bits. -/
theorem dimArithmetic_iff (hlength : dims.length ≤ dimMaxNum) :
    t.DimArithmetic dims ↔ (t.dataType = .unknown →
      dimsProduct (readDims dims) < 2 ^ 64 ∧
        (DimsValid dims → -1 ∉ dims → dimsProduct dims < 2 ^ 32)) := by
  obtain ⟨hsize, hmax⟩ := typeSize_toNat_le t.dataType
  constructor
  · -- Without a size nothing but the dimensions themselves is bounded.
    intro harith hunknown
    have hfits := harith.fits
    rw [hunknown] at hfits
    constructor
    · have hproduct := (productsFit_zero_iff rfl (by decide)).mp hfits
      rwa [show UInt64.toNat 1 = 1 from rfl, Nat.one_mul] at hproduct
    · intro hvalid hknown
      have hret : (t.validateDimensions dims).1 = .success := by
        rw [validateDimensions_success_iff hlength, hunknown]
        exact ⟨hvalid, by rw [show DataType.unknown.typeSize.toNat = 0 from rfl]; omega⟩
      have heq : t.validateDimensions dims = (.success, (t.validateDimensions dims).2) := by
        rw [← hret]
      have hexact := (harith.exact _ heq hknown).1
      rw [← dimsProduct_eq_prod hvalid hknown, Int.natCast_inj] at hexact
      have hlt := (t.validateDimensions dims).2.elementCount.toNat_lt
      omega
  · intro hcond
    refine ⟨validateDimensions_refuses hlength, ?_, ?_⟩
    · by_cases hunknown : t.dataType = .unknown
      · rw [hunknown]
        refine (productsFit_zero_iff rfl (by decide)).mpr ?_
        rw [show UInt64.toNat 1 = 1 from rfl, Nat.one_mul]
        exact (hcond hunknown).1
      · refine productsFit_of_le ?_ ?_
        · show 1 ≤ t.dataType.typeSize.toUInt64.toNat
          rw [hsize]
          exact typeSize_pos hunknown
        · show t.dataType.typeSize.toUInt64.toNat ≤ _
          rwa [hsize]
    · intro t' h hknown
      obtain ⟨hflag, hcount⟩ := validateDimensions_accepted h
      have hstatic : t'.isDynamicShape = false :=
        Bool.eq_false_iff.mpr fun hdynamic => hknown (hflag.mp hdynamic)
      obtain ⟨hvalid, hdata⟩ := validateDimensions_dataLength h hstatic
      have hle := ((validateDimensions_success_iff hlength).mp (by rw [h])).2
      -- The length bounds the number of elements, if the type has a size.
      have hsmall : dimsProduct dims < 2 ^ 32 := by
        by_cases hunknown : t.dataType = .unknown
        · exact (hcond hunknown).2 hvalid hknown
        · have hpos := typeSize_pos hunknown
          have hmul := Nat.le_mul_of_pos_left (dimsProduct dims) hpos
          omega
      rw [← dimsProduct_eq_prod hvalid hknown, hcount hknown, hdata, Nat.mod_eq_of_lt hsmall,
        Int.natCast_mul, Int.mul_comm]
      exact ⟨rfl, rfl⟩

theorem dimArithmetic_iff_float :
    ({ dataType := .float32 } : NNTensor Unit).DimArithmetic [2, -1, 3] := by
  refine (dimArithmetic_iff (by decide)).mpr fun hunknown => ?_
  cases hunknown

/-- 65536 times 65536 elements of a type without a size are counted as none. -/
theorem unknown_miscounted :
    ¬ ({ dataType := .unknown } : NNTensor Unit).DimArithmetic [65536, 65536] := by
  intro harith
  have hexact := (harith.exact _ rfl (by decide)).1
  revert hexact
  decide

end Validate

end NNTensor

end NNRt
