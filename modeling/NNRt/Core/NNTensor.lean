import NNRt.Core.TensorDesc
import Mathlib.Algebra.BigOperators.Group.List.Basic

/-!
# `NNTensor`

The tensor of the old interface, used by the model under construction and by
the executor. What a tensor's buffer is differs between the two (bytes the
tensor owns, or a device or user buffer), so the type of buffers is a parameter.

Every function returns the tensor it leaves behind also when it fails: several
of them have changed it by then.
-/

namespace NNRt

/-- `QuantParam`; the scale is the bit pattern of a `double`. -/
structure QuantParam where
  numBits : UInt32
  scale : UInt64
  zeroPoint : Int32
  deriving DecidableEq, Repr

/-- A pointer with a count, as the C interface passes arrays. -/
inductive CArray (α : Type)
  | null (count : Nat)
  | array (xs : List α)
  deriving DecidableEq, Repr

namespace CArray

/-- `ValidateArray`: a null pointer goes with count 0, any other with more. -/
def validate {α : Type} : CArray α → ReturnCode
  | .null 0 => .success
  | .null _ => .invalidParameter
  | .array [] => .invalidParameter
  | .array _ => .success

def count {α : Type} : CArray α → Nat
  | .null n => n
  | .array xs => xs.length

/-- `ConstructVectorFromArray`. -/
def toVector {α : Type} : CArray α → List α
  | .null _ => []
  | .array xs => xs

/-- In a valid array the count is the number of elements. -/
theorem count_eq_of_validate {α : Type} {xs : CArray α} (h : xs.validate = .success) :
    xs.count = xs.toVector.length := by
  cases xs with
  | null n =>
    cases n with
    | zero => rfl
    | succ n => cases h
  | array xs => rfl

end CArray

/-- `OH_NN_Tensor`. Of the quantisation parameters: no pointer, a struct with a
null member, or a list. -/
structure OHNNTensor where
  dataType : Option DataType
  dimensions : CArray Int32
  quantParam : Option (Option (List QuantParam)) := none
  type : Option TensorType := some .tensor

/-- `OH_NN_TensorInfo`. -/
structure OHNNTensorInfo where
  name : CString
  dataType : Option DataType
  dimensions : CArray Int32
  format : Option Format

/-- `QuantParams`, behind an `NN_QuantParam`. -/
structure QuantParams where
  scales : List UInt64 := []
  zeroPoints : List Int32 := []
  numBits : List UInt32 := []

/-- `CopyToCompat`, which appends to what the list already holds. -/
def QuantParams.copyToCompat (q : QuantParams) (compat : List QuantParam) :
    ReturnCode × List QuantParam :=
  if q.scales.length ≠ q.zeroPoints.length ∨ q.zeroPoints.length ≠ q.numBits.length then
    (.invalidParameter, compat)
  else
    (.success, compat ++ (q.numBits.zip (q.scales.zip q.zeroPoints)).map
      fun (numBits, scale, zeroPoint) => ⟨numBits, scale, zeroPoint⟩)

/-- `NNTensor`. -/
structure NNTensor (β : Type) where
  tensorType : TensorType := .tensor
  dataType : DataType := .float32
  format : Format := .nhwc
  name : Bytes := []
  dimensions : List Int32 := []
  quantParams : List QuantParam := []
  elementCount : UInt32 := 0
  isDynamicShape : Bool := false
  isOpParameter : Bool := false
  buffer : Option β := none
  bufferLength : Nat := 0
  dataLength : Nat := 0
  deriving DecidableEq

namespace NNTensor

variable {β : Type}

/-- `DIM_MAX_NUM` of `NNTensor`. -/
def dimMaxNum : Nat := 200

/-- The running values of the loop of `ValidateDimensions`. -/
structure DimState where
  isDynamicShape : Bool
  elementCount : UInt64
  dataLength : UInt64

/-- The loop of `ValidateDimensions`: 64-bit products, checked after each
factor. `m_isDynamicShape` keeps what was found before an error. -/
def validateDimensionsLoop (st : DimState) : List Int32 → ReturnCode × DimState
  | [] => (.success, st)
  | dim :: dims =>
    if dim < -1 ∨ dim = 0 then (.invalidParameter, st)
    else
      let absoluteDim := UInt64.ofNat dim.toInt.natAbs
      let st : DimState :=
        { isDynamicShape := st.isDynamicShape || dim = -1
          elementCount := st.elementCount * absoluteDim
          dataLength := st.dataLength * absoluteDim }
      if st.dataLength > 0xffffffff then (.invalidParameter, st)
      else validateDimensionsLoop st dims

/-- `ValidateDimensions`, which stores everything but the dimensions. -/
def validateDimensions (t : NNTensor β) (dimensions : List Int32) : ReturnCode × NNTensor β :=
  if dimensions.length > dimMaxNum then (.invalidParameter, { t with isDynamicShape := false })
  else
    match validateDimensionsLoop ⟨false, 1, t.dataType.typeSize.toUInt64⟩ dimensions with
    | (.success, st) =>
      if st.isDynamicShape then
        (.success, { t with isDynamicShape := true, elementCount := 0, dataLength := 0 })
      else
        (.success, { t with
          isDynamicShape := false
          elementCount := st.elementCount.toUInt32
          dataLength := st.dataLength.toNat })
    | (ret, st) => (ret, { t with isDynamicShape := st.isDynamicShape })

/-- `ValidateQuantParams`: 8-bit quantisation only. -/
def validateQuantParams (quantParams : List QuantParam) : ReturnCode :=
  if quantParams.any (fun quant => quant.numBits ≠ 8) then .invalidParameter else .success

/-- `ParseDimensions`. -/
def parseDimensions (t : NNTensor β) (dimensions : CArray Int32) : ReturnCode × NNTensor β :=
  if dimensions.validate ≠ .success then (dimensions.validate, t)
  else
    match t.validateDimensions dimensions.toVector with
    | (.success, t) => (.success, { t with dimensions := dimensions.toVector })
    | (ret, t) => (ret, t)

/-- `ParseQuantParams`. -/
def parseQuantParams (t : NNTensor β) :
    Option (Option (List QuantParam)) → ReturnCode × NNTensor β
  | none => (.success, t)
  | some none => (.invalidParameter, t)
  | some (some quantParams) =>
    if validateQuantParams quantParams ≠ .success then (validateQuantParams quantParams, t)
    else (.success, { t with quantParams := quantParams })

/-- `Build`. -/
def build (t : NNTensor β) (dataType : Option DataType) (dimensions : List Int32)
    (quantParams : List QuantParam) (type : TensorType) : ReturnCode × NNTensor β :=
  -- Each member is stored before the next one is checked.
  let t := { t with tensorType := type }
  match dataType with
  | none => (.invalidParameter, t)
  | some dataType =>
    match ({ t with dataType := dataType } : NNTensor β).validateDimensions dimensions with
    | (.success, t) =>
      let t := { t with dimensions := dimensions }
      if validateQuantParams quantParams ≠ .success then (validateQuantParams quantParams, t)
      else (.success, { t with quantParams := quantParams })
    | (ret, t) => (ret, t)

/-- `BuildFromOHNNTensor`. A type outside the enumeration is refused before the
tensor can be used, so it is not stored here. -/
def buildFromOHNNTensor (t : NNTensor β) (nnTensor : OHNNTensor) : ReturnCode × NNTensor β :=
  let t := { t with tensorType := nnTensor.type.getD t.tensorType }
  match nnTensor.dataType with
  | none => (.invalidParameter, t)
  | some dataType =>
    let t := { t with dataType := dataType }
    if nnTensor.type.isNone then (.invalidParameter, t)
    else
      match t.parseDimensions nnTensor.dimensions with
      | (.success, t) => t.parseQuantParams nnTensor.quantParam
      | (ret, t) => (ret, t)

/-- `BuildFromOHNNTensorInfo`. -/
def buildFromOHNNTensorInfo (t : NNTensor β) (info : OHNNTensorInfo) : ReturnCode × NNTensor β :=
  match info.dataType with
  | none => (.invalidParameter, t)
  | some dataType =>
    let t := { t with dataType := dataType }
    match info.format with
    | none => (.invalidParameter, t)
    | some format =>
      ({ t with format := format, name := info.name.val } : NNTensor β).parseDimensions
        info.dimensions

/-- `BuildFromTensorDesc` of a description that is not null. -/
def buildFromTensorDesc (t : NNTensor β) (desc : TensorDesc) : ReturnCode × NNTensor β :=
  t.build (some desc.dataType) desc.shape [] .tensor

/-- `SetQuantParam`: the old parameters are cleared first. -/
def setQuantParam (t : NNTensor β) : Option QuantParams → ReturnCode × NNTensor β
  | none => (.invalidParameter, t)
  | some quantParam =>
    match quantParam.copyToCompat [] with
    | (.success, quantParams) =>
      if validateQuantParams quantParams ≠ .success then
        (validateQuantParams quantParams, { t with quantParams := [] })
      else (.success, { t with quantParams := quantParams })
    | (ret, quantParams) => (ret, { t with quantParams := quantParams })

/-- `SetDimensions`: the rank stays; nothing is checked against the buffer. -/
def setDimensions (t : NNTensor β) (dimensions : List Int32) : ReturnCode × NNTensor β :=
  if dimensions.length ≠ t.dimensions.length then (.invalidParameter, t)
  else
    match t.validateDimensions dimensions with
    | (.success, t) => (.success, { t with dimensions := dimensions })
    | (ret, t) => (ret, t)

/-- `SetBuffer`: the pointer is taken over, not the memory. -/
def setBuffer (t : NNTensor β) (buffer : Option β) (length : Nat) : NNTensor β :=
  { t with buffer := buffer, bufferLength := length }

/-- Every dimension is positive, or -1 for one that is not known. -/
def DimsValid (dims : List Int32) : Prop :=
  ∀ dim ∈ dims, dim = -1 ∨ 0 < dim

/-- The number of elements; an unknown dimension counts as one. -/
def dimsProduct (dims : List Int32) : Nat :=
  (dims.map fun dim => dim.toInt.natAbs).prod

theorem dim_valid_iff (dim : Int32) : ¬ (dim < -1 ∨ dim = 0) ↔ dim = -1 ∨ 0 < dim := by
  have hzero : dim = 0 ↔ dim.toInt = 0 := Int32.toInt_inj.symm
  have hone : dim = -1 ↔ dim.toInt = -1 := Int32.toInt_inj.symm
  have hlt : dim < -1 ↔ dim.toInt < -1 := Int32.lt_iff_toInt_lt
  have hpos : 0 < dim ↔ 0 < dim.toInt := Int32.lt_iff_toInt_lt
  rw [hzero, hone, hlt, hpos]
  omega

theorem natAbs_le (dim : Int32) : dim.toInt.natAbs ≤ 2 ^ 31 := by
  have hlt := dim.toInt_lt
  have hge := dim.le_toInt
  omega

theorem natAbs_pos {dim : Int32} (h : dim = -1 ∨ 0 < dim) : 0 < dim.toInt.natAbs := by
  rcases h with rfl | hpos
  · decide
  · have hpos : 0 < dim.toInt := Int32.lt_iff_toInt_lt.mp hpos
    omega

theorem dimsProduct_pos {dims : List Int32} (h : DimsValid dims) : 0 < dimsProduct dims := by
  induction dims with
  | nil => decide
  | cons dim dims ih =>
    obtain ⟨hdim, hdims⟩ := List.forall_mem_cons.mp h
    exact Nat.mul_pos (natAbs_pos hdim) (ih hdims)

/-- A factor of 31 bits does not make a length of 32 bits overflow 64. -/
theorem mul_toNat {dataLength : UInt64} (h : dataLength.toNat ≤ 0xffffffff) (dim : Int32) :
    (dataLength * UInt64.ofNat dim.toInt.natAbs).toNat = dataLength.toNat * dim.toInt.natAbs := by
  have hdim := natAbs_le dim
  have hprod := Nat.mul_le_mul h hdim
  rw [UInt64.toNat_mul, UInt64.toNat_ofNat_of_lt' (by show dim.toInt.natAbs < 2 ^ 64; omega)]
  exact Nat.mod_eq_of_lt (by omega)

/-- **When the dimensions are accepted**: the length never exceeds 32 bits. -/
theorem validateDimensionsLoop_success_iff {st : DimState} {dims : List Int32}
    (h : st.dataLength.toNat ≤ 0xffffffff) :
    (validateDimensionsLoop st dims).1 = .success ↔
      DimsValid dims ∧ st.dataLength.toNat * dimsProduct dims ≤ 0xffffffff := by
  induction dims generalizing st with
  | nil =>
    refine iff_of_true rfl ⟨List.forall_mem_nil _, ?_⟩
    show st.dataLength.toNat * 1 ≤ _
    omega
  | cons dim dims ih =>
    have hcons : DimsValid (dim :: dims) ↔ (dim = -1 ∨ 0 < dim) ∧ DimsValid dims :=
      List.forall_mem_cons
    have hproduct : dimsProduct (dim :: dims) = dim.toInt.natAbs * dimsProduct dims :=
      List.prod_cons
    unfold validateDimensionsLoop
    rw [hcons, hproduct, ← dim_valid_iff, ← Nat.mul_assoc]
    by_cases hdim : dim < -1 ∨ dim = 0
    · rw [if_pos hdim]
      exact iff_of_false nofun fun hall => hall.1.1 hdim
    rw [if_neg hdim]
    dsimp only
    have hmul := mul_toNat h dim
    have hlarge : st.dataLength * UInt64.ofNat dim.toInt.natAbs > 0xffffffff ↔
        0xffffffff < st.dataLength.toNat * dim.toInt.natAbs := by
      rw [← hmul]
      exact UInt64.lt_iff_toNat_lt
    by_cases hover : st.dataLength * UInt64.ofNat dim.toInt.natAbs > 0xffffffff
    · rw [if_pos hover]
      refine iff_of_false nofun ?_
      rintro ⟨⟨-, hdims⟩, hle⟩
      have hpos := dimsProduct_pos hdims
      have hover := hlarge.mp hover
      have hmore := Nat.le_mul_of_pos_right (st.dataLength.toNat * dim.toInt.natAbs) hpos
      omega
    · have hsmall := Nat.not_lt.mp (hover ∘ hlarge.mpr)
      rw [if_neg hover, ih (by dsimp only; rwa [hmul])]
      dsimp only
      rw [hmul]
      exact ⟨fun hall => ⟨⟨hdim, hall.1⟩, hall.2⟩, fun hall => ⟨hall.1.2, hall.2⟩⟩

theorem validateDimensionsLoop_dataLength {st st' : DimState} {dims : List Int32}
    (h : st.dataLength.toNat ≤ 0xffffffff)
    (hloop : validateDimensionsLoop st dims = (.success, st')) :
    st'.dataLength.toNat = st.dataLength.toNat * dimsProduct dims := by
  induction dims generalizing st with
  | nil =>
    cases hloop
    exact (Nat.mul_one _).symm
  | cons dim dims ih =>
    have hproduct : dimsProduct (dim :: dims) = dim.toInt.natAbs * dimsProduct dims :=
      List.prod_cons
    unfold validateDimensionsLoop at hloop
    split at hloop
    · cases hloop
    dsimp only at hloop
    split at hloop
    · cases hloop
    rename_i hover
    have hmul := mul_toNat h dim
    have hle : (st.dataLength * UInt64.ofNat dim.toInt.natAbs).toNat ≤ 0xffffffff :=
      UInt64.le_iff_toNat_le.mp (UInt64.not_lt.mp hover)
    rw [ih hle hloop, hproduct, ← Nat.mul_assoc]
    dsimp only
    rw [hmul]

/-- The type takes at most eight bytes. -/
theorem typeSize_toNat_le (dataType : DataType) :
    dataType.typeSize.toUInt64.toNat = dataType.typeSize.toNat ∧
      dataType.typeSize.toNat ≤ 0xffffffff := by
  cases dataType <;> decide

theorem validateDimensions_success_iff {t : NNTensor β} {dims : List Int32}
    (hlength : dims.length ≤ dimMaxNum) :
    (t.validateDimensions dims).1 = .success ↔
      DimsValid dims ∧ t.dataType.typeSize.toNat * dimsProduct dims ≤ 0xffffffff := by
  obtain ⟨hsize, hle⟩ := typeSize_toNat_le t.dataType
  have hloop := @validateDimensionsLoop_success_iff
    ⟨false, 1, t.dataType.typeSize.toUInt64⟩ dims (by dsimp only; rwa [hsize])
  dsimp only at hloop
  rw [hsize] at hloop
  rw [← hloop]
  unfold validateDimensions
  rw [if_neg (Nat.not_lt.mpr hlength)]
  split
  · rename_i hst
    rw [hst]
    split
    · exact iff_of_true rfl rfl
    · exact iff_of_true rfl rfl
  · rename_i ret st hret hst
    rw [hst]

/-- The length of a tensor whose dimensions are all known. -/
theorem validateDimensions_dataLength {t t' : NNTensor β} {dims : List Int32}
    (h : t.validateDimensions dims = (.success, t')) (hstatic : t'.isDynamicShape = false) :
    DimsValid dims ∧ t'.dataLength = t.dataType.typeSize.toNat * dimsProduct dims := by
  obtain ⟨hsize, hle⟩ := typeSize_toNat_le t.dataType
  unfold validateDimensions at h
  split at h
  · cases h
  split at h
  · rename_i st hst
    have hle : (⟨false, 1, t.dataType.typeSize.toUInt64⟩ : DimState).dataLength.toNat
        ≤ 0xffffffff := by
      dsimp only
      rwa [hsize]
    have hvalid := ((validateDimensionsLoop_success_iff hle).mp (by rw [hst])).1
    have hlength := validateDimensionsLoop_dataLength hle hst
    dsimp only at hlength
    rw [hsize] at hlength
    split at h
    · cases h
      cases hstatic
    · cases h
      exact ⟨hvalid, hlength⟩
  · rename_i hret _
    exact absurd h (code_ne hret)

/-- Checking dimensions stores what is derived from them, and nothing else. -/
theorem validateDimensions_frame (t : NNTensor β) (dimensions : List Int32) :
    ∃ isDynamicShape elementCount dataLength, (t.validateDimensions dimensions).2 =
      { t with
        isDynamicShape := isDynamicShape
        elementCount := elementCount
        dataLength := dataLength } := by
  unfold validateDimensions
  split
  · exact ⟨_, _, _, rfl⟩
  split
  · split
    · exact ⟨_, _, _, rfl⟩
    · exact ⟨_, _, _, rfl⟩
  · exact ⟨_, _, _, rfl⟩

theorem validateDimensions_buffer (t : NNTensor β) (dimensions : List Int32) :
    (t.validateDimensions dimensions).2.buffer = t.buffer := by
  obtain ⟨_, _, _, h⟩ := t.validateDimensions_frame dimensions
  rw [h]

/-- Setting dimensions leaves everything else as it is. -/
theorem setDimensions_frame (t : NNTensor β) (dimensions : List Int32) :
    ∃ dimensions' isDynamicShape elementCount dataLength, (t.setDimensions dimensions).2 =
      { t with
        dimensions := dimensions'
        isDynamicShape := isDynamicShape
        elementCount := elementCount
        dataLength := dataLength } := by
  obtain ⟨d, n, l, hvalidate⟩ := t.validateDimensions_frame dimensions
  unfold setDimensions
  split
  · exact ⟨_, _, _, _, rfl⟩
  split
  · rename_i t' ht
    rw [ht] at hvalidate
    have ht' : t' = _ := hvalidate
    rw [ht']
    exact ⟨_, _, _, _, rfl⟩
  · rename_i ret t' _ ht
    rw [ht] at hvalidate
    have ht' : t' = _ := hvalidate
    rw [ht']
    exact ⟨_, _, _, _, rfl⟩

theorem setDimensions_buffer (t : NNTensor β) (dimensions : List Int32) :
    (t.setDimensions dimensions).2.buffer = t.buffer := by
  obtain ⟨_, _, _, _, h⟩ := t.setDimensions_frame dimensions
  rw [h]

theorem setDimensions_bufferLength (t : NNTensor β) (dimensions : List Int32) :
    (t.setDimensions dimensions).2.bufferLength = t.bufferLength := by
  obtain ⟨_, _, _, _, h⟩ := t.setDimensions_frame dimensions
  rw [h]

theorem parseDimensions_success {t t' : NNTensor β} {dimensions : CArray Int32}
    (h : t.parseDimensions dimensions = (.success, t')) :
    ∃ u, t.validateDimensions dimensions.toVector = (.success, u) ∧
      t' = { u with dimensions := dimensions.toVector } := by
  unfold parseDimensions at h
  split at h
  · rename_i hret
    exact absurd h (code_ne hret)
  split at h
  · rename_i u hu
    cases h
    exact ⟨u, hu, rfl⟩
  · rename_i hret _
    exact absurd h (code_ne hret)

theorem parseQuantParams_success {t t' : NNTensor β}
    {quantParam : Option (Option (List QuantParam))}
    (h : t.parseQuantParams quantParam = (.success, t')) :
    ∃ quantParams, t' = { t with quantParams := quantParams } := by
  unfold parseQuantParams at h
  split at h
  · cases h
    exact ⟨_, rfl⟩
  · cases h
  · split at h
    · rename_i hret
      exact absurd h (code_ne hret)
    · cases h
      exact ⟨_, rfl⟩

/-- How a tensor of the user is built: the types are taken over, the dimensions are
checked. -/
theorem buildFromOHNNTensor_built {t t' : NNTensor β} {nnTensor : OHNNTensor}
    (h : t.buildFromOHNNTensor nnTensor = (.success, t')) :
    ∃ dataType u quantParams, nnTensor.dataType = some dataType ∧
      ({ t with tensorType := nnTensor.type.getD t.tensorType, dataType := dataType } :
        NNTensor β).validateDimensions nnTensor.dimensions.toVector = (.success, u) ∧
      t' = { u with dimensions := nnTensor.dimensions.toVector, quantParams := quantParams } := by
  unfold buildFromOHNNTensor at h
  dsimp only at h
  split at h
  · cases h
  rename_i dataType hdataType
  split at h
  · cases h
  split at h
  · rename_i parsed hparsed
    obtain ⟨u, hu, rfl⟩ := parseDimensions_success hparsed
    obtain ⟨quantParams, rfl⟩ := parseQuantParams_success h
    exact ⟨dataType, u, quantParams, hdataType, hu, rfl⟩
  · rename_i hret _
    exact absurd h (code_ne hret)

/-- A tensor that is built has the type and the dimensions it is built from. -/
theorem buildFromOHNNTensor_success {t t' : NNTensor β} {nnTensor : OHNNTensor}
    (h : t.buildFromOHNNTensor nnTensor = (.success, t')) :
    nnTensor.dataType = some t'.dataType ∧ t'.dimensions = nnTensor.dimensions.toVector := by
  obtain ⟨dataType, u, quantParams, hdataType, hu, rfl⟩ := buildFromOHNNTensor_built h
  obtain ⟨d, n, l, hframe⟩ := validateDimensions_frame
    { t with tensorType := nnTensor.type.getD t.tensorType, dataType := dataType }
    nnTensor.dimensions.toVector
  rw [hu] at hframe
  have hu : u = _ := hframe
  refine ⟨?_, rfl⟩
  rw [hdataType, hu]

/-- A tensor whose dimensions are known has no data only if its type is not known. -/
theorem buildFromOHNNTensor_dataLength {t t' : NNTensor β} {nnTensor : OHNNTensor}
    (h : t.buildFromOHNNTensor nnTensor = (.success, t')) (hstatic : t'.isDynamicShape = false) :
    t'.dataLength = 0 ↔ nnTensor.dataType = some .unknown := by
  obtain ⟨dataType, u, quantParams, hdataType, hu, rfl⟩ := buildFromOHNNTensor_built h
  obtain ⟨hvalid, hlength⟩ := validateDimensions_dataLength hu hstatic
  have hpos := dimsProduct_pos hvalid
  have hsize : dataType.typeSize.toNat = 0 ↔ dataType = .unknown := by
    cases dataType <;> decide
  show u.dataLength = 0 ↔ _
  rw [hlength, hdataType, Option.some.injEq, Nat.mul_eq_zero, or_iff_left (by omega), hsize]

/-- Building from a description only checks its dimensions. -/
theorem buildFromTensorDesc_success_iff {t : NNTensor β} {desc : TensorDesc} :
    (t.buildFromTensorDesc desc).1 = .success ↔
      DimsValid desc.shape ∧ desc.dataType.typeSize.toNat * dimsProduct desc.shape ≤ 0xffffffff := by
  have hlength : desc.shape.length ≤ dimMaxNum := by
    have hle := desc.shape_le
    unfold shapeMaxNum at hle
    unfold dimMaxNum
    omega
  have hvalidate := @validateDimensions_success_iff β
    { t with tensorType := .tensor, dataType := desc.dataType } desc.shape hlength
  rw [← hvalidate]
  unfold buildFromTensorDesc build
  dsimp only
  split
  · rename_i ht
    rw [ht]
    exact iff_of_true rfl rfl
  · rename_i ht
    rw [ht]

/-- A tensor that is built has the type and the dimensions of the description. -/
theorem buildFromTensorDesc_success {t t' : NNTensor β} {desc : TensorDesc}
    (h : t.buildFromTensorDesc desc = (.success, t')) :
    t'.dataType = desc.dataType ∧ t'.dimensions = desc.shape := by
  obtain ⟨d, n, l, hframe⟩ := validateDimensions_frame
    { t with tensorType := .tensor, dataType := desc.dataType } desc.shape
  unfold buildFromTensorDesc build at h
  dsimp only at h
  split at h
  · rename_i u hu
    rw [hu] at hframe
    have hu : u = _ := hframe
    split at h
    · rename_i hret
      exact absurd h (code_ne hret)
    · cases h
      rw [hu]
      exact ⟨rfl, rfl⟩
  · rename_i hret _
    exact absurd h (code_ne hret)

theorem buildFromTensorDesc_buffer (t : NNTensor β) (desc : TensorDesc) :
    (t.buildFromTensorDesc desc).2.buffer = t.buffer := by
  have hvalidate := validateDimensions_buffer
    { t with tensorType := .tensor, dataType := desc.dataType } desc.shape
  unfold buildFromTensorDesc build
  dsimp only
  split
  · rename_i t' ht
    rw [ht] at hvalidate
    split
    · exact hvalidate
    · exact hvalidate
  · rename_i ret t' _ ht
    rw [ht] at hvalidate
    exact hvalidate

/-- `IdentifyOpParameter`. -/
def identifyOpParameter (t : NNTensor β) : NNTensor β :=
  { t with isOpParameter := true }

/-- `IsQuantTensor`. -/
def isQuantTensor (t : NNTensor β) : Bool :=
  t.quantParams.length > 0

/-- `ConvertToTensorDesc`, which ignores what the setters answer: a shape that
`SetShape` refuses leaves the description without one. -/
def convertToTensorDesc (t : NNTensor β) (desc : TensorDesc) : TensorDesc :=
  let desc := (desc.setDataType (some t.dataType)).2
  let desc := (desc.setFormat (some t.format)).2
  let desc := desc.setName (cString t.name)
  (desc.setShape t.dimensions).2

/-- The loop of `CompareAttribute` over the dimensions. -/
def sameDimensions : List Int32 → List Int32 → Bool
  | d :: ds, e :: es => (d = -1 || d = e) && sameDimensions ds es
  | _, _ => true

/-- `CompareAttribute`: a dimension of `-1` on the left agrees with any. -/
def compareAttribute (t u : NNTensor β) : Bool :=
  t.dataType = u.dataType && t.format = u.format &&
    t.dimensions.length = u.dimensions.length &&
    sameDimensions t.dimensions u.dimensions && t.tensorType = u.tensorType

end NNTensor

end NNRt
