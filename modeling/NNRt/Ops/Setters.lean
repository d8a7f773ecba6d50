import NNRt.Ops.OpsBuilder

/-!
# Setters and index checks that builders share

The setters of the builders differ in the order of their checks, in what they
read, and in where they put it. The checks are given as a list at each use, so
that the order of the source stays visible.
-/

namespace NNRt.Ops

variable {σ α : Type}

/-- The checks of a setter that does not mark its tensor: data type, one
element, buffer. -/
def scalarOf (d : DataType) : List Check :=
  [.dataType d, .elementCount 1, .buffer]

/-- A setter that stores what it reads. -/
def stores (checks : List Check) (read : Tensor → Except Fault α) (put : σ → α → σ) :
    Setter σ where
  checks := checks
  store s t := do
    return some (put s (← read t))

/-- A setter that stores what the value it reads stands for, if anything. -/
def storesDecoded {β : Type} (checks : List Check) (read : Tensor → Except Fault α)
    (decode : α → Option β) (put : σ → β → σ) : Setter σ where
  checks := checks
  store s t := do
    return (decode (← read t)).map (put s)

def int64Setter (checks : List Check) (put : σ → Int64 → σ) : Setter σ :=
  stores checks (·.int64 0) put

def floatSetter (checks : List Check) (put : σ → UInt32 → σ) : Setter σ :=
  stores checks (·.float 0) put

def boolSetter (checks : List Check) (put : σ → Bool → σ) : Setter σ :=
  stores checks Tensor.bool put

def int64sSetter (checks : List Check) (put : σ → List Int64 → σ) : Setter σ :=
  stores checks Tensor.allInt64 put

/-- `ValidateFuseType`, then `TransfromFusionType`. -/
def activationSetter (checks : List Check) (put : σ → ActivationType → σ) : Setter σ :=
  storesDecoded checks Tensor.int8 NNToMS.transfromFusionType put

/-- A pad mode when the tensor has one element, a pad list when it has four. -/
def padSetter (checks : List Check) (putMode : σ → PadMode → σ) (putList : σ → List Int64 → σ) :
    Setter σ where
  checks := checks
  store s t :=
    if t.elementCount = 1 then
      if t.dataType ≠ .int8 then .ok none
      else do
        return (NNToMS.transformPadModeValue (← t.int8)).map (putMode s)
    else if t.elementCount = 4 then
      if t.dataType ≠ .int64 then .ok none
      else do
        return some (putList s (← t.int64s 4))
    else .ok none

/-- The index check of a builder without one for the number of its inputs. -/
def checkRange (inputs outputs : List Nat) (tensors : List Tensor) : ReturnCode :=
  if inputs.any (· ≥ tensors.length) ∨ outputs.any (· ≥ tensors.length) then .invalidParameter
  else .success

end NNRt.Ops
