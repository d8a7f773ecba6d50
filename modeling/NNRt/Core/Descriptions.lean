import NNRt.Core.ShapeInvariant

/-!
# The two descriptions of a tensor

`NNTensor` takes up to 200 dimensions and keeps 32-bit sizes; `TensorDesc` takes one to
ten and multiplies in `size_t`. `ConvertToTensorDesc` and `BuildFromTensorDesc` lead
from one to the other.

- `getByteSize_eq`: what `GetByteSize` answers, by shape.
- `descriptions_agree_iff`: **a built tensor and its description agree exactly if the
  tensor has one to ten dimensions.**
-/

namespace NNRt

namespace TensorDesc

/-- Every dimension is known. -/
def AllPositive (shape : List Int32) : Prop :=
  ∀ dim ∈ shape, 0 < dim

instance (shape : List Int32) : Decidable (AllPositive shape) :=
  inferInstanceAs (Decidable (∀ dim ∈ shape, 0 < dim))

/-- A positive factor in the arithmetic of 64 bits. -/
theorem toUInt64_of_pos {dim : Int32} (h : 0 < dim) :
    dim.toInt64.toUInt64 = UInt64.ofNat dim.toInt.natAbs := by
  have hpos : 0 < dim.toInt := Int32.lt_iff_toInt_lt.mp h
  have hwide : dim.toInt64 = Int64.ofInt (dim.toInt.natAbs : Int) := by
    rw [Int.natAbs_of_nonneg hpos.le, ← Int32.toInt_toInt64, Int64.ofInt_toInt]
  rw [hwide, Int64.ofInt_eq_ofNat, Int64.toUInt64_ofNat']

theorem elementNumLoop_eq (elementNum : UInt64) (shape : List Int32) :
    elementNumLoop elementNum shape =
      if AllPositive shape then
        (.success, elementNum * UInt64.ofNat (NNTensor.dimsProduct shape))
      else (.dynamicShape, 0) := by
  induction shape generalizing elementNum with
  | nil =>
    have hnil : AllPositive [] := List.forall_mem_nil _
    rw [if_pos hnil, NNTensor.dimsProduct_nil]
    show (ReturnCode.success, elementNum) = (.success, elementNum * 1)
    rw [UInt64.mul_one]
  | cons dim shape ih =>
    have hcons : AllPositive (dim :: shape) ↔ 0 < dim ∧ AllPositive shape := List.forall_mem_cons
    unfold elementNumLoop
    by_cases hdim : dim ≤ 0
    · rw [if_pos hdim, if_neg fun hall => Int32.not_lt.mpr hdim (hcons.mp hall).1]
    have hpos := Int32.not_le.mp hdim
    rw [if_neg hdim, ih, toUInt64_of_pos hpos, NNTensor.dimsProduct_cons, UInt64.ofNat_mul,
      UInt64.mul_assoc]
    by_cases hshape : AllPositive shape
    · rw [if_pos hshape, if_pos (hcons.mpr ⟨hpos, hshape⟩)]
    · rw [if_neg hshape, if_neg fun hall => hshape (hcons.mp hall).2]

/-- **What `GetByteSize` answers**: nothing without a shape, zero while a dimension is not
known, and otherwise a product in the arithmetic of `size_t`. -/
theorem getByteSize_eq (desc : TensorDesc) :
    desc.getByteSize =
      if desc.shape = [] then (.invalidParameter, 0)
      else if ¬ AllPositive desc.shape then (.success, 0)
      else if desc.dataType.typeSize = 0 then (.invalidParameter, 0)
      else (.success,
        UInt64.ofNat (NNTensor.dimsProduct desc.shape * desc.dataType.typeSize.toNat)) := by
  unfold getByteSize getElementNum
  rw [elementNumLoop_eq]
  by_cases hempty : desc.shape = []
  · rw [if_pos (List.isEmpty_iff.mpr hempty), if_pos hempty]
  rw [if_neg (hempty ∘ List.isEmpty_iff.mp), if_neg hempty]
  by_cases hpos : AllPositive desc.shape
  · rw [if_pos hpos, if_neg (not_not.mpr hpos)]
    dsimp only
    by_cases hsize : desc.dataType.typeSize = 0
    · rw [if_pos hsize, if_pos hsize]
    · have hwide : desc.dataType.typeSize.toUInt64 = UInt64.ofNat desc.dataType.typeSize.toNat := by
        apply UInt64.toNat_inj.mp
        rw [(NNTensor.typeSize_toNat_le desc.dataType).1, UInt64.toNat_ofNat_of_lt']
        exact (NNTensor.typeSize_toNat_le desc.dataType).2.trans_lt (by decide)
      rw [if_neg hsize, if_neg hsize, UInt64.one_mul, hwide, UInt64.ofNat_mul]
  · rw [if_neg hpos, if_pos hpos]

end TensorDesc

namespace NNTensor

variable {β : Type}

/-- A tensor and the description made of it say the same. -/
structure DescriptionAgrees (t : NNTensor β) : Prop where
  /-- Any tensor built from the description has the type and the dimensions. -/
  rebuilt : ∀ u : NNTensor β, ∃ u',
    u.buildFromTensorDesc (t.convertToTensorDesc {}) = (.success, u') ∧
      u'.dataType = t.dataType ∧ u'.dimensions = t.dimensions
  byteSize : ∃ byteSize, (t.convertToTensorDesc {}).getByteSize = (.success, byteSize) ∧
    byteSize.toNat = t.dataLength
  dynamic : -1 ∈ t.dimensions → (t.convertToTensorDesc {}).getByteSize = (.success, 0)

/-- The description has the shape if `SetShape` takes it, and none otherwise. -/
theorem convertToTensorDesc_shape (t : NNTensor β) :
    (t.convertToTensorDesc {}).dataType = t.dataType ∧
      (t.convertToTensorDesc {}).shape =
        if t.dimensions ≠ [] ∧ t.dimensions.length ≤ shapeMaxNum then t.dimensions else [] := by
  unfold convertToTensorDesc TensorDesc.setShape
  dsimp only [TensorDesc.setDataType, TensorDesc.setFormat, TensorDesc.setName]
  by_cases hrank : t.dimensions.length = 0 ∨ t.dimensions.length > shapeMaxNum
  · rw [dif_pos hrank, if_neg]
    · exact ⟨rfl, rfl⟩
    · rintro ⟨hne, hle⟩
      rcases hrank with hzero | hgt
      · exact hne (List.length_eq_zero_iff.mp hzero)
      · omega
  · obtain ⟨hne, hle⟩ := not_or.mp hrank
    rw [dif_neg hrank, if_pos ⟨fun hnil => hne (List.length_eq_zero_iff.mpr hnil),
      Nat.not_lt.mp hle⟩]
    exact ⟨rfl, rfl⟩

/-- Unknown dimensions leave a tensor without a length. -/
theorem validateDimensions_unknown {t t' : NNTensor β} {dims : List Int32}
    (h : t.validateDimensions dims = (.success, t')) (hmem : -1 ∈ dims) : t'.dataLength = 0 := by
  have hflag := (validateDimensions_accepted h).1.mpr hmem
  unfold validateDimensions at h
  split at h
  · cases h
  split at h
  · split at h
    · cases h
      rfl
    · cases h
      cases hflag
  · rename_i hret _
    exact absurd h (code_ne hret)

/-- What `Build` leaves when it succeeds. -/
theorem build_success {s t : NNTensor β} {dataType : DataType} {dims : List Int32}
    {quantParams : List QuantParam} {type : TensorType}
    (h : s.build (some dataType) dims quantParams type = (.success, t)) :
    Accepts dataType dims ∧ t.dataType = dataType ∧ t.dimensions = dims ∧
      t.dataLength = if -1 ∈ dims then 0 else dataType.typeSize.toNat * dimsProduct dims := by
  have heffect : ShapeEffect s (.build (some dataType) dims quantParams type) .success t :=
    perform_effect h
  cases heffect with
  | unread hret => exact absurd rfl hret
  | refused _ hret => exact absurd rfl hret
  | stored dims' hvalidated haccepts htype hdims hflag hcount hlength =>
    cases hvalidated
    refine ⟨haccepts, htype, hdims, ?_⟩
    by_cases hmem : -1 ∈ dims
    · rw [if_pos hmem]
      unfold build at h
      dsimp only at h
      split at h
      · rename_i u hu
        have hzero := validateDimensions_unknown hu hmem
        split at h
        · rename_i hret
          exact absurd h (code_ne hret)
        · cases h
          exact hzero
      · rename_i hret _
        exact absurd h (code_ne hret)
    · rw [if_neg hmem]
      exact hlength hmem

/-- Known valid dimensions are positive. -/
theorem allPositive_iff {dims : List Int32} (h : DimsValid dims) :
    TensorDesc.AllPositive dims ↔ -1 ∉ dims := by
  constructor
  · intro hpos hmem
    exact absurd (hpos (-1) hmem) (by decide)
  · intro hknown dim hmem
    refine (h dim hmem).resolve_left fun heq => ?_
    exact hknown (heq ▸ hmem)

/-- **When the two descriptions agree**: when `SetShape` takes the dimensions. -/
theorem descriptions_agree_iff {s t : NNTensor β} {dataType : DataType} {dims : List Int32}
    {quantParams : List QuantParam} {type : TensorType} (hsize : dataType.typeSize ≠ 0)
    (h : s.build (some dataType) dims quantParams type = (.success, t)) :
    t.DescriptionAgrees ↔ 1 ≤ dims.length ∧ dims.length ≤ shapeMaxNum := by
  obtain ⟨⟨-, hvalid, hshort⟩, htype, hdims, hlength⟩ := build_success h
  obtain ⟨htype', hshape⟩ := t.convertToTensorDesc_shape
  rw [htype] at htype'
  rw [hdims] at hshape
  have hrank : dims ≠ [] ∧ dims.length ≤ shapeMaxNum ↔
      1 ≤ dims.length ∧ dims.length ≤ shapeMaxNum := by
    rw [Nat.one_le_iff_ne_zero, ne_eq, ne_eq, List.length_eq_zero_iff]
  rw [← hrank]
  constructor
  · intro hagrees
    by_contra hrefused
    -- Without a shape there is no byte size.
    rw [if_neg hrefused] at hshape
    obtain ⟨byteSize, hbytes, -⟩ := hagrees.byteSize
    rw [TensorDesc.getByteSize_eq, if_pos hshape] at hbytes
    cases hbytes
  · intro haccepted
    rw [if_pos haccepted] at hshape
    have hbytes := TensorDesc.getByteSize_eq (t.convertToTensorDesc {})
    rw [hshape, htype', if_neg haccepted.1, if_neg hsize] at hbytes
    have hpos := allPositive_iff hvalid
    have hlt : dimsProduct dims * dataType.typeSize.toNat < 2 ^ 64 := by
      rw [Nat.mul_comm]
      omega
    refine ⟨fun u => ?_, ?_, ?_⟩
    · -- `Build` is given the dimensions that it has accepted before.
      have hsuccess := (@buildFromTensorDesc_success_iff β u (t.convertToTensorDesc {})).mpr
        (by rw [hshape, htype']; exact ⟨hvalid, hshort⟩)
      obtain ⟨htype₁, hdims₁⟩ := @buildFromTensorDesc_success β u
        (u.buildFromTensorDesc (t.convertToTensorDesc {})).2 (t.convertToTensorDesc {})
        (by rw [← hsuccess])
      refine ⟨_, by rw [← hsuccess], ?_, ?_⟩
      · rw [htype₁, htype', htype]
      · rw [hdims₁, hshape, hdims]
    · rw [hlength]
      by_cases hmem : -1 ∈ dims
      · rw [if_pos fun hall => hpos.mp hall hmem] at hbytes
        exact ⟨0, hbytes, by rw [if_pos hmem]; rfl⟩
      · rw [if_neg (not_not.mpr (hpos.mpr hmem))] at hbytes
        refine ⟨_, hbytes, ?_⟩
        rw [if_neg hmem, UInt64.toNat_ofNat_of_lt' hlt, Nat.mul_comm]
    · intro hmem
      rw [hdims] at hmem
      rw [hbytes, if_pos fun hall => hpos.mp hall hmem]

theorem descriptions_agree_iff_matrix :
    (({} : NNTensor Unit).build (some .float32) [2, 3] [] .tensor).2.DescriptionAgrees := by
  have hsize : DataType.float32.typeSize ≠ 0 := by decide
  have hbuild : ({} : NNTensor Unit).build (some .float32) [2, 3] [] .tensor =
      (.success, (({} : NNTensor Unit).build (some .float32) [2, 3] [] .tensor).2) := rfl
  exact (descriptions_agree_iff hsize hbuild).mpr (by decide)

/-- The description of a scalar has no byte size. -/
theorem scalar_disagrees :
    ∃ t, ({} : NNTensor Unit).build (some .float32) [] [] .tensor = (.success, t) ∧
      ¬ t.DescriptionAgrees := by
  refine ⟨_, rfl, fun hagrees => ?_⟩
  obtain ⟨byteSize, hbytes, -⟩ := hagrees.byteSize
  cases hbytes

end NNTensor

end NNRt
