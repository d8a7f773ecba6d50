import NNRt.Core.Dimensions
import NNRt.Lib.Run

/-!
# The shape of a tensor over its calls

Type, dimensions, dynamic flag, element count and data length of an `NNTensor` are
written by different functions, and a call that fails has written some of them.

- `ShapeAgrees`: the fields tell the same shape.
- `ShapeEffect`, `perform_effect`: what a call writes: only the type; the type and the
  flag, if the dimensions are refused; or all the fields.
- `agrees_iff_keeps`: when a call keeps the agreement.
- `shapes_agree_iff`: **the fields agree after every sequence with a successful build
  exactly if every call from the first one on keeps the agreement.**
-/

namespace NNRt

namespace NNTensor

variable {β : Type}

/-- The fields tell the same shape. -/
structure ShapeAgrees (t : NNTensor β) : Prop where
  dynamic : t.isDynamicShape = true ↔ -1 ∈ t.dimensions
  counts : t.isDynamicShape = false →
    (t.elementCount.toNat : Int) = (t.dimensions.map Int32.toInt).prod ∧
      (t.dataLength : Int) = (t.dimensions.map Int32.toInt).prod * t.dataType.typeSize.toNat

/-- The calls that write the shape. -/
inductive ShapeCall
  | build (dataType : Option DataType) (dimensions : List Int32) (quantParams : List QuantParam)
    (type : TensorType)
  | buildFromOHNNTensor (nnTensor : OHNNTensor)
  | buildFromOHNNTensorInfo (info : OHNNTensorInfo)
  | buildFromTensorDesc (tensorDesc : Option TensorDesc)
  | setDimensions (dimensions : List Int32)

namespace ShapeCall

/-- The code of a call and the tensor it leaves. -/
def perform (t : NNTensor β) : ShapeCall → ReturnCode × NNTensor β
  | build dataType dimensions quantParams type => t.build dataType dimensions quantParams type
  | buildFromOHNNTensor nnTensor => t.buildFromOHNNTensor nnTensor
  | buildFromOHNNTensorInfo info => t.buildFromOHNNTensorInfo info
  | buildFromTensorDesc none => (.invalidParameter, t)
  | buildFromTensorDesc (some desc) => t.buildFromTensorDesc desc
  | setDimensions dimensions => t.setDimensions dimensions

/-- One call, whatever its code. -/
def step (t : NNTensor β) (call : ShapeCall) : Except Fault (NNTensor β) :=
  .ok (call.perform t).2

/-- A build that succeeds. -/
def Builds (t : NNTensor β) (call : ShapeCall) : Prop :=
  (∀ dimensions, call ≠ .setDimensions dimensions) ∧ (call.perform t).1 = .success

/-- The type of the tensor once the call has taken one over. -/
def typeAfter (t : NNTensor β) : ShapeCall → DataType
  | build dataType _ _ _ => dataType.getD t.dataType
  | buildFromOHNNTensor nnTensor => nnTensor.dataType.getD t.dataType
  | buildFromOHNNTensorInfo info => info.dataType.getD t.dataType
  | buildFromTensorDesc tensorDesc => (tensorDesc.map TensorDesc.dataType).getD t.dataType
  | setDimensions _ => t.dataType

/-- The dimensions `ValidateDimensions` is called with, if it is. -/
def validated (t : NNTensor β) : ShapeCall → Option (List Int32)
  | build dataType dimensions _ _ => dataType.map fun _ => dimensions
  | buildFromOHNNTensor nnTensor =>
    if nnTensor.dataType.isSome ∧ nnTensor.type.isSome ∧ nnTensor.dimensions.validate = .success then
      some nnTensor.dimensions.toVector
    else none
  | buildFromOHNNTensorInfo info =>
    if info.dataType.isSome ∧ info.format.isSome ∧ info.dimensions.validate = .success then
      some info.dimensions.toVector
    else none
  | buildFromTensorDesc tensorDesc => tensorDesc.map TensorDesc.shape
  | setDimensions dimensions =>
    if dimensions.length = t.dimensions.length then some dimensions else none

end ShapeCall

/-- The dimensions are accepted for the type. -/
def Accepts (dataType : DataType) (dims : List Int32) : Prop :=
  dims.length ≤ dimMaxNum ∧ DimsValid dims ∧
    dataType.typeSize.toNat * dimsProduct dims ≤ 0xffffffff

/-- The loop comes to an unknown dimension: what is in front of it is accepted. -/
def MeetsUnknown (dataType : DataType) (dims : List Int32) : Prop :=
  dims.length ≤ dimMaxNum ∧ ∃ before, before ++ [-1] <+: dims ∧ DimsValid before ∧
    dataType.typeSize.toNat * dimsProduct before ≤ 0xffffffff

/-- What a call must be like for the fields to agree once more. Where no dimensions are
looked at or they are refused, the old ones have to fit the type and the flag. -/
def ShapeCall.Keeps (t : NNTensor β) (call : ShapeCall) : Prop :=
  match call.validated t with
  | none => -1 ∉ t.dimensions → (call.typeAfter t).typeSize = t.dataType.typeSize
  | some dims =>
    (Accepts (call.typeAfter t) dims → -1 ∉ dims → dimsProduct dims < 2 ^ 32) ∧
      (¬ Accepts (call.typeAfter t) dims →
        (MeetsUnknown (call.typeAfter t) dims ↔ -1 ∈ t.dimensions) ∧
          (-1 ∉ t.dimensions → (call.typeAfter t).typeSize = t.dataType.typeSize))

/-- What a call writes. -/
inductive ShapeEffect (t : NNTensor β) (call : ShapeCall) (ret : ReturnCode) (t' : NNTensor β) :
    Prop
  /-- Nothing but the type. -/
  | unread (hret : ret ≠ .success) (hvalidated : call.validated t = none)
    (htype : t'.dataType = call.typeAfter t) (hdims : t'.dimensions = t.dimensions)
    (hflag : t'.isDynamicShape = t.isDynamicShape) (hcount : t'.elementCount = t.elementCount)
    (hlength : t'.dataLength = t.dataLength)
  /-- The flag, as far as the dimensions are read. -/
  | refused (dims : List Int32) (hret : ret ≠ .success) (hvalidated : call.validated t = some dims)
    (hrefused : ¬ Accepts (call.typeAfter t) dims) (htype : t'.dataType = call.typeAfter t)
    (hdims : t'.dimensions = t.dimensions)
    (hflag : t'.isDynamicShape = true ↔ MeetsUnknown (call.typeAfter t) dims)
    (hcount : t'.elementCount = t.elementCount) (hlength : t'.dataLength = t.dataLength)
  /-- The dimensions and what they say; the quantisation parameters may still be refused. -/
  | stored (dims : List Int32) (hvalidated : call.validated t = some dims)
    (haccepts : Accepts (call.typeAfter t) dims) (htype : t'.dataType = call.typeAfter t)
    (hdims : t'.dimensions = dims) (hflag : t'.isDynamicShape = true ↔ -1 ∈ dims)
    (hcount : -1 ∉ dims → t'.elementCount.toNat = dimsProduct dims % 2 ^ 32)
    (hlength : -1 ∉ dims → t'.dataLength = (call.typeAfter t).typeSize.toNat * dimsProduct dims)

/-! ## `ValidateDimensions` -/

/-- An unknown dimension that is read is the first one, or it is behind a valid first one
which leaves the length short. -/
theorem exists_unknown_cons {size : Nat} (hle : size ≤ 0xffffffff) (dim : Int32)
    (dims : List Int32) :
    (∃ before, before ++ [-1] <+: dim :: dims ∧ DimsValid before ∧
        size * dimsProduct before ≤ 0xffffffff) ↔
      dim = -1 ∨ (dim = -1 ∨ 0 < dim) ∧ ∃ before, before ++ [-1] <+: dims ∧ DimsValid before ∧
        size * dim.toInt.natAbs * dimsProduct before ≤ 0xffffffff := by
  constructor
  · rintro ⟨before, hbefore, hvalid, hshort⟩
    cases before with
    | nil => exact Or.inl (List.cons_prefix_cons.mp hbefore).1.symm
    | cons first before =>
      obtain ⟨rfl, hbelow⟩ := List.cons_prefix_cons.mp hbefore
      obtain ⟨hfirst, hvalid⟩ := List.forall_mem_cons.mp hvalid
      rw [dimsProduct_cons, ← Nat.mul_assoc] at hshort
      exact Or.inr ⟨hfirst, before, hbelow, hvalid, hshort⟩
  · rintro (rfl | ⟨hdim, before, hbefore, hvalid, hshort⟩)
    · refine ⟨[], List.cons_prefix_cons.mpr ⟨rfl, List.nil_prefix⟩, List.forall_mem_nil _, ?_⟩
      rw [dimsProduct_nil, Nat.mul_one]
      exact hle
    · refine ⟨dim :: before, List.cons_prefix_cons.mpr ⟨rfl, hbefore⟩,
        List.forall_mem_cons.mpr ⟨hdim, hvalid⟩, ?_⟩
      rw [dimsProduct_cons, ← Nat.mul_assoc]
      exact hshort

/-- The flag when the loop ends, also with an error. -/
theorem validateDimensionsLoop_flag {st : DimState} {dims : List Int32}
    (hle : st.dataLength.toNat ≤ 0xffffffff) :
    (validateDimensionsLoop st dims).2.isDynamicShape = true ↔
      st.isDynamicShape = true ∨ ∃ before, before ++ [-1] <+: dims ∧ DimsValid before ∧
        st.dataLength.toNat * dimsProduct before ≤ 0xffffffff := by
  induction dims generalizing st with
  | nil =>
    refine (or_iff_left ?_).symm
    rintro ⟨before, hbefore, -⟩
    cases List.append_eq_nil_iff.mp (List.prefix_nil.mp hbefore) with
    | intro _ hsingle => cases hsingle
  | cons dim dims ih =>
    rw [exists_unknown_cons hle]
    unfold validateDimensionsLoop
    by_cases hdim : dim < -1 ∨ dim = 0
    · -- An invalid dimension ends the loop, with the flag as it is.
      have hinvalid : ¬ (dim = -1 ∨ 0 < dim) := fun hvalid => (dim_valid_iff dim).mpr hvalid hdim
      rw [if_pos hdim]
      refine (or_iff_left ?_).symm
      rintro (rfl | ⟨hvalid, -⟩)
      · exact hinvalid (Or.inl rfl)
      · exact hinvalid hvalid
    have hvalid := (dim_valid_iff dim).mp hdim
    have hmul := mul_toNat hle dim
    rw [if_neg hdim, and_iff_right hvalid]
    dsimp only
    by_cases hlong : st.dataLength * UInt64.ofNat dim.toInt.natAbs > 0xffffffff
    · -- Too long already: nothing behind this dimension is read.
      rw [if_pos hlong, Bool.or_eq_true, decide_eq_true_eq]
      have hlong : 0xffffffff < st.dataLength.toNat * dim.toInt.natAbs := by
        rw [← hmul]
        exact UInt64.lt_iff_toNat_lt.mp hlong
      refine or_congr_right (or_iff_left ?_).symm
      rintro ⟨before, -, hbefore, hshort⟩
      have hmore := Nat.le_mul_of_pos_right (st.dataLength.toNat * dim.toInt.natAbs)
        (dimsProduct_pos hbefore)
      omega
    · have hshort : (st.dataLength * UInt64.ofNat dim.toInt.natAbs).toNat ≤ 0xffffffff :=
        UInt64.le_iff_toNat_le.mp (UInt64.not_lt.mp hlong)
      rw [if_neg hlong, ih hshort]
      dsimp only
      rw [hmul, Bool.or_eq_true, decide_eq_true_eq, or_assoc]

section Effect

variable {t t' : NNTensor β} {ret : ReturnCode} {call : ShapeCall} {dims : List Int32}

theorem accepts_iff : (t.validateDimensions dims).1 = .success ↔ Accepts t.dataType dims := by
  by_cases hlength : dims.length ≤ dimMaxNum
  · rw [validateDimensions_success_iff hlength, Accepts, and_iff_right hlength]
  · unfold validateDimensions
    rw [if_pos (Nat.not_le.mp hlength)]
    exact iff_of_false nofun fun haccepts => hlength haccepts.1

/-- What a refused list leaves in the tensor. -/
theorem validateDimensions_refused (h : t.validateDimensions dims = (ret, t'))
    (hret : ret ≠ .success) :
    (t'.isDynamicShape = true ↔ MeetsUnknown t.dataType dims) ∧ t'.dataType = t.dataType ∧
      t'.dimensions = t.dimensions ∧ t'.elementCount = t.elementCount ∧
        t'.dataLength = t.dataLength := by
  unfold validateDimensions at h
  split at h
  · rename_i hlength
    cases h
    refine ⟨iff_of_false Bool.false_ne_true fun hmeets => ?_, rfl, rfl, rfl, rfl⟩
    exact Nat.not_lt.mpr hmeets.1 hlength
  rename_i hlength
  split at h
  · split at h
    · cases h
      exact absurd rfl hret
    · cases h
      exact absurd rfl hret
  · rename_i hloop
    cases h
    obtain ⟨hsize, hmax⟩ := typeSize_toNat_le t.dataType
    have hflag := @validateDimensionsLoop_flag ⟨false, 1, t.dataType.typeSize.toUInt64⟩ dims
      (by dsimp only; rwa [hsize])
    rw [hloop, or_iff_right Bool.false_ne_true] at hflag
    dsimp only at hflag
    rw [hsize] at hflag
    refine ⟨?_, rfl, rfl, rfl, rfl⟩
    rw [MeetsUnknown, and_iff_right (Nat.not_lt.mp hlength)]
    exact hflag

/-- What an accepted list leaves in the tensor. -/
theorem validateDimensions_stored (h : t.validateDimensions dims = (.success, t')) :
    t'.dataType = t.dataType ∧ (t'.isDynamicShape = true ↔ -1 ∈ dims) ∧
      (-1 ∉ dims → t'.elementCount.toNat = dimsProduct dims % 2 ^ 32) ∧
        (-1 ∉ dims → t'.dataLength = t.dataType.typeSize.toNat * dimsProduct dims) := by
  obtain ⟨hflag, hcount⟩ := validateDimensions_accepted h
  obtain ⟨d, n, l, hframe⟩ := t.validateDimensions_frame dims
  rw [h] at hframe
  have hframe : t' = _ := hframe
  refine ⟨by rw [hframe], hflag, hcount, fun hknown => ?_⟩
  exact (validateDimensions_dataLength h
    (Bool.eq_false_iff.mpr fun hdynamic => hknown (hflag.mp hdynamic))).2

/-! ## The calls -/

/-- A call that hands `dims` to `ValidateDimensions` of a tensor with the new type, and
stores them if they are accepted. -/
theorem effect_of_validated {u u' : NNTensor β} {code : ReturnCode}
    (hvalidated : call.validated t = some dims) (htype : u.dataType = call.typeAfter t)
    (hdims : u.dimensions = t.dimensions) (hcount : u.elementCount = t.elementCount)
    (hlength : u.dataLength = t.dataLength) (h : u.validateDimensions dims = (code, u'))
    (hrefused : code ≠ .success → ret ≠ .success ∧ t' = u')
    (hstored : code = .success → ∃ quantParams,
      t' = { u' with dimensions := dims, quantParams := quantParams }) :
    ShapeEffect t call ret t' := by
  have haccepts := @accepts_iff β u dims
  rw [h, htype] at haccepts
  by_cases hcode : code = .success
  · -- They are stored; what the caller does then is no longer about the shape.
    subst hcode
    obtain ⟨quantParams, rfl⟩ := hstored rfl
    obtain ⟨htype', hflag, hcounts, hlengths⟩ := validateDimensions_stored h
    rw [htype] at hlengths
    exact .stored dims hvalidated (haccepts.mp rfl) (htype'.trans htype) rfl hflag hcounts hlengths
  · obtain ⟨hret, rfl⟩ := hrefused hcode
    obtain ⟨hflag, htype', hdims', hcount', hlength'⟩ := validateDimensions_refused h hcode
    rw [htype] at hflag
    exact .refused dims hret hvalidated (hcode ∘ haccepts.mpr) (htype'.trans htype)
      (hdims'.trans hdims) hflag (hcount'.trans hcount) (hlength'.trans hlength)

/-- `Build`, called directly or with what a description says. -/
theorem effect_of_build {dataType : Option DataType} {quantParams : List QuantParam}
    {type : TensorType} (hvalidated : call.validated t = dataType.map fun _ => dims)
    (htype : call.typeAfter t = dataType.getD t.dataType)
    (h : t.build dataType dims quantParams type = (ret, t')) : ShapeEffect t call ret t' := by
  unfold build at h
  dsimp only at h
  cases dataType with
  | none =>
    cases h
    exact .unread nofun hvalidated htype.symm rfl rfl rfl rfl
  | some dataType =>
    dsimp only at h
    split at h
    · rename_i u' hu
      refine effect_of_validated (u := { t with tensorType := type, dataType := dataType })
        hvalidated htype.symm rfl rfl rfl hu (fun hne => absurd rfl hne) ?_
      intro _
      -- The dimensions stay also where the quantisation parameters are refused.
      split at h
      · cases h
        exact ⟨_, rfl⟩
      · cases h
        exact ⟨_, rfl⟩
    · rename_i code u' hcode hu
      cases h
      exact effect_of_validated (u := { t with tensorType := type, dataType := dataType })
        hvalidated htype.symm rfl rfl rfl hu (fun hne => ⟨hne, rfl⟩) fun heq => absurd heq hcode

/-- `ParseDimensions` of a tensor with the new type, and what follows it. -/
theorem effect_of_parse {u u' : NNTensor β} {code : ReturnCode} {dimensions : CArray Int32}
    (hvalidated : call.validated t =
      if dimensions.validate = .success then some dimensions.toVector else none)
    (htype : u.dataType = call.typeAfter t) (hdims : u.dimensions = t.dimensions)
    (hflag : u.isDynamicShape = t.isDynamicShape) (hcount : u.elementCount = t.elementCount)
    (hlength : u.dataLength = t.dataLength) (h : u.parseDimensions dimensions = (code, u'))
    (hrefused : code ≠ .success → ret ≠ .success ∧ t' = u')
    (hstored : code = .success → ∃ quantParams, t' = { u' with quantParams := quantParams }) :
    ShapeEffect t call ret t' := by
  unfold parseDimensions at h
  split at h
  · rename_i harray
    rw [if_neg harray] at hvalidated
    cases h
    obtain ⟨hret, rfl⟩ := hrefused harray
    exact .unread hret hvalidated htype hdims hflag hcount hlength
  rename_i harray
  rw [if_pos (not_not.mp harray)] at hvalidated
  split at h
  · rename_i v hv
    cases h
    refine effect_of_validated hvalidated htype hdims hcount hlength hv
      (fun hne => absurd rfl hne) ?_
    intro _
    obtain ⟨quantParams, rfl⟩ := hstored rfl
    exact ⟨quantParams, rfl⟩
  · rename_i hcode hv
    cases h
    exact effect_of_validated hvalidated htype hdims hcount hlength hv hrefused
      fun heq => absurd heq hcode

theorem effect_of_buildFromOHNNTensor {nnTensor : OHNNTensor}
    (h : t.buildFromOHNNTensor nnTensor = (ret, t')) :
    ShapeEffect t (.buildFromOHNNTensor nnTensor) ret t' := by
  unfold buildFromOHNNTensor at h
  dsimp only at h
  split at h
  · rename_i hnone
    cases h
    refine .unread nofun (if_neg fun hall => ?_) ?_ rfl rfl rfl rfl
    · rw [hnone] at hall
      exact Bool.false_ne_true hall.1
    · show t.dataType = nnTensor.dataType.getD t.dataType
      rw [hnone, Option.getD_none]
  rename_i dataType hsome
  have htype : dataType = ShapeCall.typeAfter t (.buildFromOHNNTensor nnTensor) := by
    show dataType = nnTensor.dataType.getD t.dataType
    rw [hsome, Option.getD_some]
  split at h
  · rename_i hnone
    cases h
    refine .unread nofun (if_neg fun hall => ?_) htype rfl rfl rfl rfl
    rw [Option.isNone_iff_eq_none.mp hnone] at hall
    exact Bool.false_ne_true hall.2.1
  rename_i hkind
  have hvalidated : ShapeCall.validated t (.buildFromOHNNTensor nnTensor) =
      if nnTensor.dimensions.validate = .success then some nnTensor.dimensions.toVector
      else none := by
    have hkind : nnTensor.type.isSome := by
      rw [Option.isSome_iff_ne_none]
      simpa using hkind
    show (if _ ∧ _ ∧ _ then _ else _) = _
    rw [hsome]
    simp only [hkind, Option.isSome_some, true_and]
  split at h
  · rename_i u' hu
    refine effect_of_parse (u := { t with
      tensorType := nnTensor.type.getD t.tensorType, dataType := dataType })
      hvalidated htype rfl rfl rfl rfl hu (fun hne => absurd rfl hne) fun _ => ?_
    -- The quantisation parameters are read last, accepted or not.
    unfold parseQuantParams at h
    split at h
    · cases h
      exact ⟨_, rfl⟩
    · cases h
      exact ⟨_, rfl⟩
    · split at h
      · cases h
        exact ⟨_, rfl⟩
      · cases h
        exact ⟨_, rfl⟩
  · rename_i code u' hcode hu
    cases h
    exact effect_of_parse (u := { t with
      tensorType := nnTensor.type.getD t.tensorType, dataType := dataType })
      hvalidated htype rfl rfl rfl rfl hu (fun hne => ⟨hne, rfl⟩) fun heq => absurd heq hcode

theorem effect_of_buildFromOHNNTensorInfo {info : OHNNTensorInfo}
    (h : t.buildFromOHNNTensorInfo info = (ret, t')) :
    ShapeEffect t (.buildFromOHNNTensorInfo info) ret t' := by
  unfold buildFromOHNNTensorInfo at h
  split at h
  · rename_i hnone
    cases h
    refine .unread nofun (if_neg fun hall => ?_) ?_ rfl rfl rfl rfl
    · rw [hnone] at hall
      exact Bool.false_ne_true hall.1
    · show t.dataType = info.dataType.getD t.dataType
      rw [hnone, Option.getD_none]
  rename_i dataType hsome
  have htype : dataType = ShapeCall.typeAfter t (.buildFromOHNNTensorInfo info) := by
    show dataType = info.dataType.getD t.dataType
    rw [hsome, Option.getD_some]
  dsimp only at h
  split at h
  · rename_i hnone
    cases h
    refine .unread nofun (if_neg fun hall => ?_) htype rfl rfl rfl rfl
    rw [hnone] at hall
    exact Bool.false_ne_true hall.2.1
  rename_i format hformat
  have hvalidated : ShapeCall.validated t (.buildFromOHNNTensorInfo info) =
      if info.dimensions.validate = .success then some info.dimensions.toVector else none := by
    show (if _ ∧ _ ∧ _ then _ else _) = _
    rw [hsome, hformat]
    simp only [Option.isSome_some, true_and]
  exact effect_of_parse (u := { t with
    dataType := dataType, format := format, name := info.name.val })
    hvalidated htype rfl rfl rfl rfl h (fun hne => ⟨hne, rfl⟩) fun _ => ⟨_, rfl⟩

theorem effect_of_setDimensions (h : t.setDimensions dims = (ret, t')) :
    ShapeEffect t (.setDimensions dims) ret t' := by
  unfold setDimensions at h
  split at h
  · rename_i hrank
    cases h
    exact .unread nofun (if_neg hrank) rfl rfl rfl rfl rfl
  rename_i hrank
  have hvalidated : ShapeCall.validated t (.setDimensions dims) = some dims :=
    if_pos (not_not.mp hrank)
  split at h
  · rename_i u' hu
    cases h
    exact effect_of_validated hvalidated rfl rfl rfl rfl hu (fun hne => absurd rfl hne)
      fun _ => ⟨_, rfl⟩
  · rename_i code u' hcode hu
    cases h
    exact effect_of_validated hvalidated rfl rfl rfl rfl hu (fun hne => ⟨hne, rfl⟩)
      fun heq => absurd heq hcode

/-- **What a call writes.** -/
theorem perform_effect (h : call.perform t = (ret, t')) : ShapeEffect t call ret t' := by
  cases call with
  | build dataType dimensions quantParams type => exact effect_of_build rfl rfl h
  | buildFromOHNNTensor nnTensor => exact effect_of_buildFromOHNNTensor h
  | buildFromOHNNTensorInfo info => exact effect_of_buildFromOHNNTensorInfo h
  | buildFromTensorDesc tensorDesc =>
    cases tensorDesc with
    | none =>
      cases h
      exact .unread nofun rfl rfl rfl rfl rfl rfl
    | some desc =>
      have hbuild : t.build (some desc.dataType) desc.shape [] .tensor = (ret, t') := h
      exact effect_of_build rfl rfl hbuild
  | setDimensions dimensions => exact effect_of_setDimensions h

/-! ## The agreement -/

theorem ShapeEffect.dimsValid (heffect : ShapeEffect t call ret t') (h : DimsValid t.dimensions) :
    DimsValid t'.dimensions := by
  cases heffect with
  | unread _ _ _ hdims => rwa [hdims]
  | refused _ _ _ _ _ hdims => rwa [hdims]
  | stored _ _ haccepts _ hdims =>
    rw [hdims]
    exact haccepts.2.1

/-- Where the dimensions are all known and stay, the length fits the type if its size stays. -/
theorem agrees_iff_of_kept (hvalid : DimsValid t.dimensions) (h : t.ShapeAgrees)
    (hdims : t'.dimensions = t.dimensions) (hcount : t'.elementCount = t.elementCount)
    (hlength : t'.dataLength = t.dataLength) :
    t'.ShapeAgrees ↔ (t'.isDynamicShape = true ↔ -1 ∈ t.dimensions) ∧
      (-1 ∉ t.dimensions → t'.dataType.typeSize = t.dataType.typeSize) := by
  have hold : -1 ∉ t.dimensions →
      (t.elementCount.toNat : Int) = (t.dimensions.map Int32.toInt).prod ∧
        (t.dataLength : Int) = (t.dimensions.map Int32.toInt).prod * t.dataType.typeSize.toNat :=
    fun hknown => h.counts (Bool.eq_false_iff.mpr fun hdynamic => hknown (h.dynamic.mp hdynamic))
  have hstatic : (t'.isDynamicShape = true ↔ -1 ∈ t.dimensions) →
      (t'.isDynamicShape = false ↔ -1 ∉ t.dimensions) := by
    intro hflag
    rw [← Bool.not_eq_true, hflag]
  constructor
  · -- The product of known dimensions is positive, so equal lengths mean equal sizes.
    intro h'
    have hflag := h'.dynamic
    rw [hdims] at hflag
    refine ⟨hflag, fun hknown => ?_⟩
    have hlength' := (h'.counts ((hstatic hflag).mpr hknown)).2
    rw [hdims, hlength, (hold hknown).2, ← dimsProduct_eq_prod hvalid hknown] at hlength'
    have hpos := dimsProduct_pos hvalid
    apply UInt32.toNat_inj.mp
    refine (Nat.eq_of_mul_eq_mul_left hpos ?_).symm
    exact_mod_cast hlength'
  · rintro ⟨hflag, hsize⟩
    refine ⟨by rw [hdims]; exact hflag, fun hfalse => ?_⟩
    have hknown := (hstatic hflag).mp hfalse
    rw [hdims, hcount, hlength, hsize hknown]
    exact hold hknown

/-- Where dimensions are stored, only the number of elements can be wrong. -/
theorem agrees_iff_of_stored (haccepts : Accepts (call.typeAfter t) dims)
    (hvalidated : call.validated t = some dims) (htype : t'.dataType = call.typeAfter t)
    (hdims : t'.dimensions = dims) (hflag : t'.isDynamicShape = true ↔ -1 ∈ dims)
    (hcount : -1 ∉ dims → t'.elementCount.toNat = dimsProduct dims % 2 ^ 32)
    (hlength : -1 ∉ dims → t'.dataLength = (call.typeAfter t).typeSize.toNat * dimsProduct dims) :
    t'.ShapeAgrees ↔ call.Keeps t := by
  unfold ShapeCall.Keeps
  rw [hvalidated]
  dsimp only
  rw [and_iff_left fun hrefused => absurd haccepts hrefused, forall_prop_of_true haccepts]
  have hstatic : t'.isDynamicShape = false ↔ -1 ∉ dims := by
    rw [← Bool.not_eq_true, hflag]
  constructor
  · intro h' hknown
    have hcount' := (h'.counts (hstatic.mpr hknown)).1
    rw [hdims, ← dimsProduct_eq_prod haccepts.2.1 hknown, Int.natCast_inj] at hcount'
    have hlt := t'.elementCount.toNat_lt
    omega
  · intro hsmall
    refine ⟨by rw [hdims]; exact hflag, fun hfalse => ?_⟩
    have hknown := hstatic.mp hfalse
    rw [hdims, ← dimsProduct_eq_prod haccepts.2.1 hknown, hcount hknown, hlength hknown, htype,
      Nat.mod_eq_of_lt (hsmall hknown), Int.natCast_mul, Int.mul_comm]
    exact ⟨rfl, rfl⟩

/-- **When a call keeps the agreement.** -/
theorem agrees_iff_keeps (hvalid : DimsValid t.dimensions) (h : t.ShapeAgrees)
    (heffect : ShapeEffect t call ret t') : t'.ShapeAgrees ↔ call.Keeps t := by
  cases heffect with
  | unread _ hvalidated htype hdims hflag hcount hlength =>
    unfold ShapeCall.Keeps
    rw [hvalidated, agrees_iff_of_kept hvalid h hdims hcount hlength, hflag, htype,
      and_iff_right h.dynamic]
  | refused dims _ hvalidated hrefused htype hdims hflag hcount hlength =>
    unfold ShapeCall.Keeps
    rw [hvalidated, agrees_iff_of_kept hvalid h hdims hcount hlength, hflag, htype]
    dsimp only
    rw [and_iff_right fun haccepts => absurd haccepts hrefused, forall_prop_of_true hrefused]
  | stored dims hvalidated haccepts htype hdims hflag hcount hlength =>
    exact agrees_iff_of_stored haccepts hvalidated htype hdims hflag hcount hlength

/-- A successful build establishes the agreement, whatever the tensor was before. -/
theorem agrees_iff_of_success (heffect : ShapeEffect t call .success t') :
    DimsValid t'.dimensions ∧ (t'.ShapeAgrees ↔ call.Keeps t) := by
  cases heffect with
  | unread hret => exact absurd rfl hret
  | refused _ hret => exact absurd rfl hret
  | stored dims hvalidated haccepts htype hdims hflag hcount hlength =>
    refine ⟨by rw [hdims]; exact haccepts.2.1, ?_⟩
    exact agrees_iff_of_stored haccepts hvalidated htype hdims hflag hcount hlength

/-! ## Sequences of calls -/

/-- **When the fields agree** after every beginning of a sequence that has a successful
build in it: when every call from that build on keeps the agreement. -/
theorem shapes_agree_iff (t : NNTensor β) (calls : List ShapeCall) :
    (∀ before, before <+: calls → Run.Seen ShapeCall.step ShapeCall.Builds t before →
      ∀ u, Run.exec ShapeCall.step t before = .ok u → u.ShapeAgrees) ↔
        Run.MeetsFrom ShapeCall.step ShapeCall.Builds (fun t call => call.Keeps t) t calls := by
  have htotal : ∃ t', Run.exec ShapeCall.step t calls = .ok t' :=
    Run.exec_total (fun t call => ⟨_, rfl⟩) t calls
  obtain ⟨t', h⟩ := htotal
  refine Run.seen_iff_meetsFrom (I := fun t => DimsValid t.dimensions) ?_ ?_ ?_ h
  · rintro s call s' ⟨-, hsuccess⟩ hstep
    cases hstep
    exact agrees_iff_of_success (perform_effect (by rw [← hsuccess]))
  · intro s call s' hvalid hstep
    cases hstep
    exact (perform_effect rfl).dimsValid hvalid
  · intro s call s' hvalid hagrees hstep
    cases hstep
    exact agrees_iff_keeps hvalid hagrees (perform_effect rfl)

/-- Refused dimensions mark a tensor of known dimensions as dynamic. -/
theorem refused_dimensions_flagged : ∃ u : NNTensor Unit,
    Run.exec ShapeCall.step {} [.build (some .float32) [2, 2] [] .tensor, .setDimensions [-1, 0]]
      = .ok u ∧
    Run.Seen ShapeCall.step ShapeCall.Builds ({} : NNTensor Unit)
      [.build (some .float32) [2, 2] [] .tensor, .setDimensions [-1, 0]] ∧
    ¬ u.ShapeAgrees := by
  refine ⟨_, rfl, Or.inl ⟨fun dimensions heq => (by cases heq), rfl⟩, fun hagrees => ?_⟩
  have hflag := hagrees.dynamic.mp rfl
  revert hflag
  decide

end Effect

end NNTensor

end NNRt
