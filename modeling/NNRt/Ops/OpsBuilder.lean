import NNRt.Core.NNTensor
import NNRt.Lib.LittleEndian
import NNRt.Ops.Primitive

/-!
# `OpsBuilder`

An operation builder checks the indices of an operation, reads its parameter
tensors into its members, and later turns the members into a primitive.

The builders of the source share one shape, which `OpsBuilder` spells out: what
is checked first, what a parameter tensor of which type does, and what the
members become. A setter is a list of checks in the order of the source, one of
which is the call of `IdentifyOpParameter`, and the reads that follow them.
Every failing check answers `OH_NN_INVALID_PARAMETER`.

A builder reads tensors through pointers; the one thing it writes is the mark
of a parameter tensor, and the mark stays when a later check fails.
-/

namespace NNRt

/-- A tensor of the model under construction, which owns its bytes. -/
abbrev Tensor := NNTensor Bytes

namespace Tensor

/-- The `i`-th of the `w`-byte numbers in a tensor's buffer, read without a
bound as the source does. -/
def number (t : Tensor) (w i : Nat) : Except Fault Nat :=
  match t.buffer with
  | none => .error (.nullDeref .buffer)
  | some bytes =>
    if w * i + w ≤ bytes.length then .ok (LittleEndian.decode ((bytes.drop (w * i)).take w))
    else .error .outOfBounds

def int8 (t : Tensor) : Except Fault Int8 := do
  return Int8.ofNat (← t.number 1 0)

def int32 (t : Tensor) : Except Fault Int32 := do
  return Int32.ofNat (← t.number 4 0)

def int64 (t : Tensor) (i : Nat) : Except Fault Int64 := do
  return Int64.ofNat (← t.number 8 i)

def uint64 (t : Tensor) : Except Fault UInt64 := do
  return UInt64.ofNat (← t.number 8 0)

def float (t : Tensor) (i : Nat) : Except Fault UInt32 := do
  return UInt32.ofNat (← t.number 4 i)

def bool (t : Tensor) : Except Fault Bool := do
  return (← t.number 1 0) ≠ 0

/-- The first `n` 64-bit integers. -/
def int64s (t : Tensor) (n : Nat) : Except Fault (List Int64) :=
  (List.range n).mapM t.int64

/-- As many 64-bit integers as the tensor has elements. -/
def allInt64 (t : Tensor) : Except Fault (List Int64) :=
  t.int64s t.elementCount.toNat

/-- As many floats as the tensor has elements. -/
def allFloat (t : Tensor) : Except Fault (List UInt32) :=
  (List.range t.elementCount.toNat).mapM t.float

end Tensor

/-- One step of a setter before it reads. -/
inductive Check
  /-- `tensor->IdentifyOpParameter()`. -/
  | mark
  | dataType (d : DataType)
  | elementCount (n : UInt32)
  /-- `tensor->IsScalar()`. -/
  | scalar
  | rank (n : Nat)
  /-- `tensor->GetBuffer()` is not null. -/
  | buffer
  deriving DecidableEq

namespace Check

/-- Does a check let a tensor pass? -/
def passes (t : Tensor) : Check → Bool
  | .mark => true
  | .dataType d => t.dataType = d
  | .elementCount n => t.elementCount = n
  | .scalar => t.dimensions.isEmpty
  | .rank n => t.dimensions.length = n
  | .buffer => t.buffer.isSome

/-- The checks of a setter in order; the tensor is as they leave it. -/
def run : List Check → Tensor → Bool × Tensor
  | [], t => (true, t)
  | .mark :: checks, t => run checks t.identifyOpParameter
  | check :: checks, t => if check.passes t then run checks t else (false, t)

end Check

/-- A setter of a builder with members `σ`: its checks, and what it stores. The
store may still refuse the value it has read. -/
structure Setter (σ : Type) where
  checks : List Check
  store : σ → Tensor → Except Fault (Option σ)

/-- A call of a setter. -/
def Setter.run {σ : Type} (setter : Setter σ) (s : σ) (t : Tensor) :
    Except Fault (Option σ × Tensor) :=
  match Check.run setter.checks t with
  | (false, t) => .ok (none, t)
  | (true, t) => do
    return (← setter.store s t, t)

/-- When a builder calls `SetQuantType`. -/
inductive QuantTypeCall
  | never
  /-- Before the parameters are looked at. -/
  | early
  | late
  deriving DecidableEq

/-- `CheckIOIndex`. -/
def checkIOIndex (inputNum outputNum : Nat) (inputs outputs : List Nat)
    (tensors : List Tensor) : ReturnCode :=
  if inputs.length ≠ inputNum ∨ outputs.length ≠ outputNum then .invalidParameter
  else if inputs.any (· ≥ tensors.length) ∨ outputs.any (· ≥ tensors.length) then
    .invalidParameter
  else .success

/-- `CheckParamIndex`. -/
def checkParamIndex (paramNum : Nat) (params : List Nat) (tensors : List Tensor) : ReturnCode :=
  if params.length > paramNum then .invalidParameter
  else if params.any (· ≥ tensors.length) then .invalidParameter
  else .success

/-- `SetQuantType`: the first output tensor decides. -/
def quantTypeOf (outputs : List Nat) (tensors : List Tensor) : Except Fault OpsQuantType :=
  match outputs.head?.bind (tensors[·]?) with
  | none => .error .outOfBounds
  | some t => .ok (if t.isQuantTensor then .all else .none)

/-- A builder class with members `σ`. -/
structure OpsBuilder (σ : Type) where
  /-- `OP_NAME`. -/
  opName : String
  /-- The members of a new builder. -/
  init : σ
  /-- The check of the input and output indices that `Build` begins with. -/
  checkIO : List Nat → List Nat → List Tensor → ReturnCode
  /-- `PARAM_NUM` or `PARAM_MAX_NUM`. -/
  paramNum : Nat := 0
  /-- What is read from the inputs before the parameters are. -/
  readInputs : σ → List Tensor → Option σ := fun s _ => some s
  /-- Does the loop over the parameters mark each of them first? -/
  marksParams : Bool := false
  /-- `m_paramMap`. -/
  paramMap : List (TensorType × Setter σ) := []
  /-- What is checked once the parameters are read. -/
  checkParams : σ → List Tensor → Except Fault ReturnCode := fun _ _ => .ok .success
  setsQuantType : QuantTypeCall := .never
  /-- `GetPrimitive`; `none` is a null primitive. -/
  primitive : σ → Except Fault (Option Primitive)

/-- A builder whose `Build` succeeded, as an element of `m_ops`. -/
structure BuiltOp where
  name : String
  inputsIndex : List Nat
  outputsIndex : List Nat
  quantType : OpsQuantType
  /-- What `GetPrimitive` does. -/
  primitive : Except Fault (Option Primitive)

namespace OpsBuilder

variable {σ : Type}

/-- What the loop does with one parameter tensor; `none` stands for
`OH_NN_INVALID_PARAMETER`. -/
def setParam (b : OpsBuilder σ) (s : σ) (t : Tensor) : Except Fault (Option σ × Tensor) :=
  let t := if b.marksParams then t.identifyOpParameter else t
  match b.paramMap.lookup t.tensorType with
  | none => .ok (none, t)
  | some setter => setter.run s t

/-- The loop of `Build` over the parameters. -/
def buildParams (b : OpsBuilder σ) :
    List Nat → σ → List Tensor → Except Fault (Option σ × List Tensor)
  | [], s, tensors => .ok (some s, tensors)
  | i :: params, s, tensors =>
    match tensors[i]? with
    | none => .error .outOfBounds
    | some t =>
      match b.setParam s t with
      | .error fault => .error fault
      | .ok (none, t) => .ok (none, tensors.set i t)
      | .ok (some s, t) => buildParams b params s (tensors.set i t)

/-- The tensors at given indices. -/
def tensorsAt (tensors : List Tensor) (indices : List Nat) : List Tensor :=
  indices.filterMap (tensors[·]?)

/-- `m_quantType` before the parameters are looked at. -/
def earlyQuantType (b : OpsBuilder σ) (outputs : List Nat) (tensors : List Tensor) :
    Except Fault OpsQuantType :=
  if b.setsQuantType = .early then quantTypeOf outputs tensors else .ok .none

/-- `m_quantType` in the end. -/
def quantType (b : OpsBuilder σ) (outputs : List Nat) (tensors : List Tensor) :
    Except Fault OpsQuantType :=
  if b.setsQuantType = .never then .ok .none else quantTypeOf outputs tensors

/-- The part of `Build` after the parameters. -/
def finish (b : OpsBuilder σ) (s : σ) (inputs outputs : List Nat) (tensors : List Tensor) :
    Except Fault (Except ReturnCode BuiltOp) :=
  match b.checkParams s (tensorsAt tensors inputs) with
  | .error fault => .error fault
  | .ok .success => do
    return .ok ⟨b.opName, inputs, outputs, ← b.quantType outputs tensors, b.primitive s⟩
  | .ok ret => .ok (.error ret)

/-- `Build` of a new builder, and the tensors as it leaves them. -/
def build (b : OpsBuilder σ) (params inputs outputs : List Nat) (tensors : List Tensor) :
    Except Fault (Except ReturnCode BuiltOp × List Tensor) :=
  if b.checkIO inputs outputs tensors ≠ .success then
    .ok (.error (b.checkIO inputs outputs tensors), tensors)
  else
    match b.earlyQuantType outputs tensors with
    | .error fault => .error fault
    | .ok _ =>
      if checkParamIndex b.paramNum params tensors ≠ .success then
        .ok (.error (checkParamIndex b.paramNum params tensors), tensors)
      else
        match b.readInputs b.init (tensorsAt tensors inputs) with
        | none => .ok (.error .invalidParameter, tensors)
        | some s =>
          match b.buildParams params s tensors with
          | .error fault => .error fault
          | .ok (none, tensors) => .ok (.error .invalidParameter, tensors)
          | .ok (some s, tensors) => do
            return (← b.finish s inputs outputs tensors, tensors)

end OpsBuilder

end NNRt
