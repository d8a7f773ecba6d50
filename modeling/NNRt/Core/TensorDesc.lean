import NNRt.Core.Enums
import Mathlib.Data.List.TakeWhile

/-!
# `TensorDesc`

The description of a tensor that users and the runtime exchange. A value
carries what its setters guarantee: at most `SHAPE_MAX_NUM` dimensions, and a
name without an inner `NUL`.
-/

namespace NNRt

/-- The content of a `const char*`: no byte is `NUL`. -/
abbrev CString := { bytes : Bytes // 0 ∉ bytes }

/-- `s.c_str()`, read as a C string: what comes before the first `NUL`. -/
def cString (bytes : Bytes) : CString :=
  ⟨bytes.takeWhile (· ≠ 0), fun h => by
    have h0 := List.mem_takeWhile_imp h
    simp at h0⟩

/-- `SHAPE_MAX_NUM`. -/
def shapeMaxNum : Nat := 10

/-- The empty string. -/
def emptyName : CString := ⟨[], List.not_mem_nil⟩

theorem nil_length_le : ([] : List Int32).length ≤ shapeMaxNum := by decide

theorem single_length_le (count : Int32) : [count].length ≤ shapeMaxNum := by
  show 1 ≤ 10
  omega

/-- `TensorDesc`. -/
structure TensorDesc where
  dataType : DataType := .unknown
  format : Format := .none
  shape : List Int32 := []
  name : CString := emptyName
  shape_le : shape.length ≤ shapeMaxNum := by first | exact nil_length_le | decide
  deriving DecidableEq

namespace TensorDesc

/-- The description of some floats. -/
def floats (count : Int32) : TensorDesc where
  dataType := .float32
  shape := [count]
  shape_le := single_length_le count

/-- `SetDataType`. -/
def setDataType (desc : TensorDesc) : Option DataType → ReturnCode × TensorDesc
  | none => (.invalidParameter, desc)
  | some dataType => (.success, { desc with dataType := dataType })

/-- `SetFormat`. -/
def setFormat (desc : TensorDesc) : Option Format → ReturnCode × TensorDesc
  | none => (.invalidParameter, desc)
  | some format => (.success, { desc with format := format })

/-- `SetShape` of a pointer and a count; nothing is checked against a buffer. -/
def setShape (desc : TensorDesc) (shape : List Int32) : ReturnCode × TensorDesc :=
  if h : shape.length = 0 ∨ shape.length > shapeMaxNum then (.invalidParameter, desc)
  else (.success, { desc with shape := shape, shape_le := by omega })

/-- `SetName` of a pointer that is not null. -/
def setName (desc : TensorDesc) (name : CString) : TensorDesc :=
  { desc with name := name }

/-- The loop of `GetElementNum`. -/
def elementNumLoop (elementNum : UInt64) : List Int32 → ReturnCode × UInt64
  | [] => (.success, elementNum)
  | dim :: dims =>
    if dim ≤ 0 then (.dynamicShape, 0)
    else elementNumLoop (elementNum * dim.toInt64.toUInt64) dims

/-- `GetElementNum`; the answer is written before an error is returned. -/
def getElementNum (desc : TensorDesc) : ReturnCode × UInt64 :=
  if desc.shape.isEmpty then (.invalidParameter, 0)
  else elementNumLoop 1 desc.shape

/-- `GetByteSize`. -/
def getByteSize (desc : TensorDesc) : ReturnCode × UInt64 :=
  match desc.getElementNum with
  -- How large a dynamic shape gets is not known yet.
  | (.dynamicShape, _) => (.success, 0)
  | (.success, elementNum) =>
    if desc.dataType.typeSize = 0 then (.invalidParameter, 0)
    else (.success, elementNum * desc.dataType.typeSize.toUInt64)
  | (ret, _) => (ret, 0)

/-- A shape that `SetShape` accepts is the shape afterwards. -/
theorem setShape_eq {desc : TensorDesc} {shape : List Int32} (hne : shape ≠ [])
    (hle : shape.length ≤ shapeMaxNum) :
    desc.setShape shape = (.success, { desc with shape := shape, shape_le := hle }) := by
  rw [setShape, dif_neg]
  rintro (h0 | hgt)
  · exact hne (List.length_eq_zero_iff.mp h0)
  · omega

end TensorDesc

end NNRt
