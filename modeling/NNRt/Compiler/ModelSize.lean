import NNRt.Model.LiteGraph
import NNRt.Compiler.NNCompiler
import NNRt.Cache.Readers
import NNRt.Lib.Overflow
import Mathlib.Data.List.ReduceOption

/-!
# The size of a model

Before a compilation is built, a model above the limit of the RAM is authenticated. Its size
is summed up over the constant tensors of the lite graph, in words; the one test for an
overflow compares a number of elements, not of bytes.

- `getModelSizeFromModel_exact_iff`: when the answer is 0 or the sum.
- `checked_isSome_iff`: when nothing wraps on the way to it.
- `sizesExactly_iff`: **the size of a model is exact or 0, and nothing wraps**, exactly where
  the tensors up to the end of the loop fit a word.
-/

namespace NNRt

open Overflow

/-! ## The size from a graph -/

/-- A tensor of a lite graph with its node type, which the graph library keeps. -/
structure MindIRTensor extends LiteTensor where
  nodeType : Int32

/-- `MINDSPORE_CONST_NODE_TYPE`. -/
def mindsporeConstNodeType : Int32 := 0

/-- `DataTypeSize`; a type without a counterpart has no size. -/
def dataTypeSize : MSDataType → UInt64
  | .bool | .int8 | .uint8 => 1
  | .int16 | .uint16 | .float16 => 2
  | .int32 | .uint32 | .float32 => 4
  | .int64 | .uint64 | .float64 => 8
  | .unknown => 0

/-- A dimension as the `size_t` that `std::accumulate` makes of it. -/
def dimAsSize (dim : Int32) : UInt64 :=
  dim.toInt64.toUInt64

section Code

variable {m : Type → Type} [Monad m]

/-- The loop over `all_tensors_`, from one of them on. -/
def addTensors (arith : Arith m) : UInt64 → List (Option MindIRTensor) → m UInt64
  | modelSize, [] => pure modelSize
  | _, none :: _ => pure 0
  | modelSize, some tensor :: tensors =>
    if tensor.nodeType ≠ mindsporeConstNodeType then addTensors arith modelSize tensors
    else do
      let tensorSize ← arith.prod (tensor.dims.map dimAsSize)
      -- The number of elements, not yet of bytes.
      if 0xffffffffffffffff - modelSize ≤ tensorSize then pure 0
      else do
        let bytes ← arith.mul tensorSize (dataTypeSize tensor.dataType)
        let modelSize ← arith.add modelSize bytes
        addTensors arith modelSize tensors

/-- `GetModelSizeFromModel`, of the tensors of the lite graph; `none` is a null graph. -/
def modelSizeWith (arith : Arith m) (allTensors : Option (List (Option MindIRTensor))) :
    m UInt64 :=
  match allTensors with
  | none => pure 0
  | some tensors => addTensors arith 0 tensors

end Code

/-- `GetModelSizeFromModel`, in the words of the machine. -/
def getModelSizeFromModel (allTensors : Option (List (Option MindIRTensor))) : UInt64 :=
  modelSizeWith wrapping allTensors

/-- `NNCompiler::GetModelSize`; `innerModel` is null for a model from a cache. -/
def NNCompiler.getModelSize {δ : Type} (codec : JsonCodec) (io : IoFaults) (fs : FileSystem)
    (c : NNCompiler δ) (modelSizeFromFile : UInt64)
    (innerModel : Option (Option (List (Option MindIRTensor)))) : Except Fault UInt64 :=
  match innerModel with
  | some allTensors => .ok (getModelSizeFromModel allTensors)
  | none =>
    getModelSizeFromCache codec io fs c.cachePath c.extensionConfig.modelName modelSizeFromFile

/-! ## What the size decides -/

/-- What `GetModelSize` reads of a compilation; of its pointers whether they are null, of its
buffers also their sizes. -/
structure SizedCompilation where
  nnModel : Bool := false
  offlineModelPath : Bool := false
  /-- Whether `stat` finds the path. -/
  cachePath : Option Bool := none
  offlineModelBuffer : Option UInt64 := none
  cacheBuffer : Option UInt64 := none
  modelSize : UInt64 := 0
  deriving DecidableEq, Repr

/-- The `GetModelSize` of the core; `compilerSize` is what the compiler answers. -/
def getModelSize (compilation : SizedCompilation) (compilerSize : Except Fault UInt64) :
    Except Fault (ReturnCode × UInt64) :=
  if compilation.nnModel then compilerSize.map (.success, ·)
  else if compilation.offlineModelPath then compilerSize.map (.success, ·)
  else
    match compilation.cachePath with
    | some true => compilerSize.map (.success, ·)
    | some false => .ok (.invalidParameter, 0)
    | none =>
      if compilation.offlineModelBuffer.getD 0 ≠ 0 then
        .ok (.success, compilation.offlineModelBuffer.getD 0)
      else if compilation.cacheBuffer.getD 0 ≠ 0 then
        .ok (.success, compilation.cacheBuffer.getD 0)
      else .ok (.invalidParameter, 0)

/-- `CheckExceedRamLimit`, with the compilation and `isExceedRamLimit` it leaves. -/
def checkExceedRamLimit (compilation : Option SizedCompilation)
    (compilerSize : Except Fault UInt64) (isExceedRamLimit : Bool) :
    Except Fault (ReturnCode × Option SizedCompilation × Bool) :=
  match compilation with
  | none => .ok (.invalidParameter, none, isExceedRamLimit)
  | some c => do
    let (ret, modelSize) ← getModelSize c compilerSize
    if ret ≠ .success then return (.invalidParameter, some c, isExceedRamLimit)
    else if modelSize = 0 then return (.invalidParameter, some c, isExceedRamLimit)
    else return (.success, some { c with modelSize := modelSize }, modelSize > modelMaxLimit)

/-- The service that authenticates models; a function of it may be null. -/
structure NNRtService where
  isServiceAvaliable : Bool
  /-- The return code, and what it reports. -/
  isSupportAuthentication : Option (ReturnCode × Bool)
  authentication : Option ReturnCode

/-- What `AuthenticateModel` leaves. -/
structure AuthenticateOutcome where
  ret : ReturnCode
  compilation : Option SizedCompilation
  isExceedRamLimit : Bool
  /-- Whether the service has been asked to authenticate the model. -/
  asked : Bool
  deriving DecidableEq, Repr

/-- `AuthenticateModel`. -/
def authenticateModel (nnrtService : NNRtService) (compilation : Option SizedCompilation)
    (compilerSize : Except Fault UInt64) (isExceedRamLimit : Bool) :
    Except Fault AuthenticateOutcome := do
  let (retCode, compilation, isExceedRamLimit) ←
    checkExceedRamLimit compilation compilerSize isExceedRamLimit
  let done (ret : ReturnCode) (asked : Bool) : AuthenticateOutcome :=
    ⟨ret, compilation, isExceedRamLimit, asked⟩
  if retCode ≠ .success then return done retCode false
  else if !isExceedRamLimit then return done .success false
  else if !nnrtService.isServiceAvaliable then return done .success false
  else
    match nnrtService.isSupportAuthentication with
    | none => return done .invalidParameter false
    | some (.success, false) => return done .success false
    | some (.success, true) =>
      match nnrtService.authentication with
      | none => return done .invalidParameter false
      | some ret => return done ret true
    | some (ret, _) => return done ret false

/-! ## The sum -/

namespace MindIRTensor

/-- The product of the dimensions. -/
def elements (tensor : MindIRTensor) : Int :=
  (tensor.dims.map Int32.toInt).prod

/-- The product of the dimensions times the element size. -/
def bytes (tensor : MindIRTensor) : Int :=
  tensor.elements * (dataTypeSize tensor.dataType).toNat

/-- The dimensions as the loop multiplies them. -/
def sizes (tensor : MindIRTensor) : List UInt64 :=
  tensor.dims.map dimAsSize

/-- Their product, a negative dimension counted as what is converted to a `size_t`. -/
def rawElements (tensor : MindIRTensor) : Nat :=
  (tensor.sizes.map UInt64.toNat).prod

/-- This product times the element size. -/
def rawBytes (tensor : MindIRTensor) : Nat :=
  tensor.rawElements * (dataTypeSize tensor.dataType).toNat

end MindIRTensor

/-- The constant tensors. -/
def constantTensors (tensors : List (Option MindIRTensor)) : List MindIRTensor :=
  tensors.reduceOption.filter (·.nodeType = mindsporeConstNodeType)

/-- The size of the constant tensors. -/
def constantBytes (tensors : List (Option MindIRTensor)) : Int :=
  ((constantTensors tensors).map MindIRTensor.bytes).sum

/-- The sum of what the loop adds up, as a number. -/
def rawBytes (tensors : List (Option MindIRTensor)) : Nat :=
  ((constantTensors tensors).map MindIRTensor.rawBytes).sum

/-! ## Where the loop stops -/

/-- The loop stops at this tensor, with 0: a null pointer, or a constant one whose elements
reach the largest word together with the bytes before it. -/
def StopsAt (before : List (Option MindIRTensor)) : Option MindIRTensor → Prop
  | none => True
  | some tensor =>
    tensor.nodeType = mindsporeConstNodeType ∧
      2 ^ 64 - 1 ≤ rawBytes before % 2 ^ 64 + tensor.rawElements % 2 ^ 64

/-- It stops at one of these tensors, behind those it has gone through. -/
def StopsFrom (before tensors : List (Option MindIRTensor)) : Prop :=
  ∃ between tensor after, tensors = between ++ tensor :: after ∧ StopsAt (before ++ between) tensor

/-- It stops at one of the tensors. -/
def Stops (tensors : List (Option MindIRTensor)) : Prop :=
  StopsFrom [] tensors

/-- A constant tensor fits: every product of its leading dimensions, and, unless the loop
stops at it, its bytes together with those before it. -/
def FitsAt (before : List (Option MindIRTensor)) (tensor : MindIRTensor) : Prop :=
  Fits tensor.sizes ∧
    (¬ StopsAt before (some tensor) → rawBytes before + tensor.rawBytes < 2 ^ 64)

/-- The constant tensors among these fit, up to where the loop stops. -/
def FitFrom (before tensors : List (Option MindIRTensor)) : Prop :=
  ∀ between tensor after, tensors = between ++ some tensor :: after →
    tensor.nodeType = mindsporeConstNodeType → ¬ StopsFrom before between →
      FitsAt (before ++ between) tensor

/-- The constant tensors up to where the loop stops fit. -/
def TensorsFit (tensors : List (Option MindIRTensor)) : Prop :=
  FitFrom [] tensors

/-- The size of a model is exact or 0, and nothing wraps on the way to it. -/
structure SizesExactly (tensors : List (Option MindIRTensor)) : Prop where
  exact : getModelSizeFromModel (some tensors) = 0 ∨
    (getModelSizeFromModel (some tensors)).toNat = constantBytes tensors
  /-- No product and no sum wraps. -/
  no_wrap : modelSizeWith checked (some tensors) = some (getModelSizeFromModel (some tensors))
  /-- A model above the limit is not taken for one below it. -/
  limit : modelMaxLimit.toNat < constantBytes tensors →
    ∀ (codec : JsonCodec) (io : IoFaults) (fs : FileSystem) (compiler : NNCompiler TensorDesc)
      (modelSizeFromFile : UInt64) (c : SizedCompilation) (isExceedRamLimit : Bool)
      (c' : Option SizedCompilation), c.nnModel = true →
        checkExceedRamLimit (some c)
          (compiler.getModelSize codec io fs modelSizeFromFile (some (some tensors)))
          isExceedRamLimit ≠ .ok (.success, c', false)

section Sums

variable {before after : List (Option MindIRTensor)} {tensor : MindIRTensor}

theorem constantTensors_append (before after : List (Option MindIRTensor)) :
    constantTensors (before ++ after) = constantTensors before ++ constantTensors after := by
  unfold constantTensors
  rw [List.reduceOption_append, List.filter_append]

theorem rawBytes_append (before after : List (Option MindIRTensor)) :
    rawBytes (before ++ after) = rawBytes before + rawBytes after := by
  unfold rawBytes
  rw [constantTensors_append, List.map_append, List.sum_append]

theorem rawBytes_concat (h : tensor.nodeType = mindsporeConstNodeType) :
    rawBytes (before ++ [some tensor]) = rawBytes before + tensor.rawBytes := by
  rw [rawBytes_append]
  simp [rawBytes, constantTensors, h]

theorem rawBytes_concat_of_ne (h : tensor.nodeType ≠ mindsporeConstNodeType) :
    rawBytes (before ++ [some tensor]) = rawBytes before := by
  rw [rawBytes_append]
  simp [rawBytes, constantTensors, h]

theorem not_stopsFrom_nil : ¬ StopsFrom before [] := by
  rintro ⟨between, tensor, after, heq, -⟩
  cases between <;> cases heq

/-- The loop stops at the tensor in front, or at one behind it. -/
theorem stopsFrom_cons {tensor : Option MindIRTensor} :
    StopsFrom before (tensor :: after) ↔
      StopsAt before tensor ∨ StopsFrom (before ++ [tensor]) after := by
  constructor
  · rintro ⟨between, stop, rest, heq, hstop⟩
    cases between with
    | nil =>
      obtain ⟨rfl, rfl⟩ := List.cons.inj heq
      rw [List.append_nil] at hstop
      exact .inl hstop
    | cons first between =>
      obtain ⟨rfl, rfl⟩ := List.cons.inj heq
      exact .inr ⟨between, stop, rest, rfl, by rwa [List.append_assoc]⟩
  · rintro (hstop | ⟨between, stop, rest, rfl, hstop⟩)
    · exact ⟨[], tensor, after, rfl, by rwa [List.append_nil]⟩
    · exact ⟨tensor :: between, stop, rest, rfl, by rwa [List.append_assoc] at hstop⟩

theorem fitFrom_nil : FitFrom before [] := by
  intro between tensor after heq
  cases between <;> cases heq

/-- Behind a null pointer nothing has to fit. -/
theorem fitFrom_cons_none : FitFrom before (none :: after) := by
  intro between tensor rest heq _ hgoes
  cases between with
  | nil => cases heq
  | cons first between =>
    obtain ⟨rfl, rfl⟩ := List.cons.inj heq
    have hstop : StopsAt before none := trivial
    exact absurd (stopsFrom_cons.mpr (.inl hstop)) hgoes

theorem fitFrom_cons_some :
    FitFrom before (some tensor :: after) ↔
      (tensor.nodeType = mindsporeConstNodeType → FitsAt before tensor) ∧
        (¬ StopsAt before (some tensor) → FitFrom (before ++ [some tensor]) after) := by
  constructor
  · intro hfit
    refine ⟨fun hconst => ?_, fun hgoes between next rest heq hconst hbetween => ?_⟩
    · have hfirst := hfit [] tensor after rfl hconst not_stopsFrom_nil
      rwa [List.append_nil] at hfirst
    · have hnext := hfit (some tensor :: between) next rest (by rw [heq]; rfl) hconst
        fun hstops => (stopsFrom_cons.mp hstops).elim hgoes hbetween
      rwa [List.append_assoc]
  · rintro ⟨hfirst, hrest⟩ between next rest heq hconst hbetween
    cases between with
    | nil =>
      obtain ⟨hnext, rfl⟩ := List.cons.inj heq
      cases hnext
      rw [List.append_nil]
      exact hfirst hconst
    | cons first between =>
      obtain ⟨rfl, rfl⟩ := List.cons.inj heq
      have hgoes := not_or.mp (mt stopsFrom_cons.mpr hbetween)
      have hnext := hrest hgoes.1 between next rest rfl hconst hgoes.2
      rwa [List.append_assoc] at hnext

/-- Where the tensors fit and the loop does not stop, their bytes fit. -/
theorem rawBytes_lt_of_fit {tensors : List (Option MindIRTensor)}
    (hbefore : rawBytes before < 2 ^ 64) (hfit : FitFrom before tensors)
    (hgoes : ¬ StopsFrom before tensors) : rawBytes (before ++ tensors) < 2 ^ 64 := by
  induction tensors generalizing before with
  | nil => rwa [List.append_nil]
  | cons tensor tensors ih =>
    obtain ⟨hfirst, hrest⟩ := not_or.mp (mt stopsFrom_cons.mpr hgoes)
    rw [List.append_cons before tensor tensors]
    cases tensor with
    | none => exact absurd trivial hfirst
    | some tensor =>
      obtain ⟨hfits, hfit⟩ := fitFrom_cons_some.mp hfit
      refine ih ?_ (hfit hfirst) hrest
      by_cases hconst : tensor.nodeType = mindsporeConstNodeType
      · rw [rawBytes_concat hconst]
        exact (hfits hconst).2 hfirst
      · rwa [rawBytes_concat_of_ne hconst]

end Sums

/-! ## The loop -/

section Loop

variable {before : List (Option MindIRTensor)}

theorem agrees_addTensors (tensors : List (Option MindIRTensor)) (modelSize : UInt64) :
    Agrees (addTensors checked modelSize tensors) (addTensors wrapping modelSize tensors) := by
  induction tensors generalizing modelSize with
  | nil => exact agrees_pure modelSize
  | cons tensor tensors ih =>
    cases tensor with
    | none => exact agrees_pure 0
    | some tensor =>
      unfold addTensors
      by_cases hconst : tensor.nodeType ≠ mindsporeConstNodeType
      · rw [if_pos hconst, if_pos hconst]
        exact ih modelSize
      · rw [if_neg hconst, if_neg hconst]
        refine (agrees_prod _).bind fun tensorSize => ?_
        by_cases hstop : 0xffffffffffffffff - modelSize ≤ tensorSize
        · rw [if_pos hstop, if_pos hstop]
          exact agrees_pure 0
        · rw [if_neg hstop, if_neg hstop]
          exact (agrees_mul _ _).bind fun bytes => (agrees_add _ _).bind ih

/-- The test of the loop, as a test on numbers. -/
theorem reaches_iff (modelSize tensorSize : UInt64) :
    0xffffffffffffffff - modelSize ≤ tensorSize ↔
      2 ^ 64 - 1 ≤ modelSize.toNat + tensorSize.toNat := by
  have hmax : (0xffffffffffffffff : UInt64).toNat = 2 ^ 64 - 1 := rfl
  have hle : modelSize ≤ 0xffffffffffffffff := by
    have hlt := modelSize.toNat_lt
    rw [UInt64.le_iff_toNat_le, hmax]
    omega
  rw [UInt64.le_iff_toNat_le, UInt64.toNat_sub_of_le _ _ hle, hmax]
  omega

/-- A constant tensor, in the words of the machine. -/
theorem addTensors_wrapping_const {tensor : MindIRTensor}
    (hconst : tensor.nodeType = mindsporeConstNodeType) (modelSize : UInt64)
    (tensors : List (Option MindIRTensor)) :
    (addTensors wrapping modelSize (some tensor :: tensors) : Id UInt64)
      = if 0xffffffffffffffff - modelSize ≤ product tensor.sizes then pure 0
        else addTensors wrapping
          (modelSize + product tensor.sizes * dataTypeSize tensor.dataType) tensors := by
  rw [addTensors, if_neg (not_not.mpr hconst)]
  rfl

/-- The test stops the loop of the machine at such a tensor exactly where it is to stop. -/
theorem stopsAt_iff {tensor : MindIRTensor} (hconst : tensor.nodeType = mindsporeConstNodeType)
    {modelSize : UInt64} (hsize : modelSize.toNat = rawBytes before % 2 ^ 64) :
    StopsAt before (some tensor) ↔
      0xffffffffffffffff - modelSize ≤ product tensor.sizes := by
  have hstop : StopsAt before (some tensor) ↔
      2 ^ 64 - 1 ≤ rawBytes before % 2 ^ 64 + tensor.rawElements % 2 ^ 64 := and_iff_right hconst
  rw [hstop, reaches_iff, toNat_product, hsize]
  rfl

/-- **The loop of the machine**, behind the tensors it has gone through: it stops with 0, or
ends with the sum modulo `2 ^ 64`. -/
theorem addTensors_wrapping (tensors : List (Option MindIRTensor)) {modelSize : UInt64}
    (hsize : modelSize.toNat = rawBytes before % 2 ^ 64) :
    (StopsFrom before tensors → (addTensors wrapping modelSize tensors : Id UInt64) = 0) ∧
      (¬ StopsFrom before tensors → (addTensors wrapping modelSize tensors : Id UInt64).toNat
        = rawBytes (before ++ tensors) % 2 ^ 64) := by
  induction tensors generalizing before modelSize with
  | nil =>
    rw [List.append_nil]
    exact ⟨fun hstops => absurd hstops not_stopsFrom_nil, fun _ => hsize⟩
  | cons tensor tensors ih =>
    rw [stopsFrom_cons, List.append_cons before tensor tensors]
    cases tensor with
    | none => exact ⟨fun _ => rfl, fun hgoes => absurd (.inl trivial) hgoes⟩
    | some tensor =>
      by_cases hconst : tensor.nodeType = mindsporeConstNodeType
      · rw [addTensors_wrapping_const hconst, stopsAt_iff hconst hsize]
        by_cases hstop : 0xffffffffffffffff - modelSize ≤ product tensor.sizes
        · rw [if_pos hstop]
          exact ⟨fun _ => rfl, fun hgoes => absurd (.inl hstop) hgoes⟩
        · rw [if_neg hstop, or_iff_right hstop]
          refine ih ?_
          rw [rawBytes_concat hconst]
          exact toNat_add_mul hsize (toNat_product tensor.sizes)
      · rw [addTensors, if_pos hconst]
        have hfirst : ¬ StopsAt before (some tensor) := fun hstop => hconst hstop.1
        rw [or_iff_right hfirst]
        exact ih (by rwa [rawBytes_concat_of_ne hconst])

/-- The bytes of a tensor whose dimensions fit are what the machine adds. -/
theorem rawBytes_of_fits {tensor : MindIRTensor} (hfits : Fits tensor.sizes) :
    tensor.rawBytes
      = (product tensor.sizes).toNat * (dataTypeSize tensor.dataType).toNat := by
  rw [toNat_product, Nat.mod_eq_of_lt hfits.prod_lt]
  rfl

/-- **The checked loop** goes through iff the tensors fit. -/
theorem checked_isSome_iff (tensors : List (Option MindIRTensor)) {modelSize : UInt64}
    (hsize : modelSize.toNat = rawBytes before) :
    (addTensors checked modelSize tensors).isSome = true ↔ FitFrom before tensors := by
  induction tensors generalizing before modelSize with
  | nil => exact iff_of_true rfl fitFrom_nil
  | cons tensor tensors ih =>
    cases tensor with
    | none => exact iff_of_true rfl fitFrom_cons_none
    | some tensor =>
      rw [fitFrom_cons_some, addTensors]
      by_cases hconst : tensor.nodeType = mindsporeConstNodeType
      · rw [if_neg (not_not.mpr hconst), forall_prop_of_true hconst]
        by_cases hfits : Fits tensor.sizes
        · have hstops := stopsAt_iff hconst (hsize.trans
            (Nat.mod_eq_of_lt (hsize ▸ modelSize.toNat_lt)).symm)
          rw [← MindIRTensor.sizes, checked_prod_of_fits hfits, Option.bind_eq_bind,
            Option.bind_some, FitsAt, hstops, rawBytes_of_fits hfits, ← hsize]
          by_cases hstop : 0xffffffffffffffff - modelSize ≤ product tensor.sizes
          · rw [if_pos hstop]
            exact iff_of_true rfl ⟨⟨hfits, (absurd hstop ·)⟩, (absurd hstop ·)⟩
          · rw [if_neg hstop, checked_mul_add]
            by_cases hsum : modelSize.toNat
                + (product tensor.sizes).toNat * (dataTypeSize tensor.dataType).toNat < 2 ^ 64
            · have hnext : (modelSize + product tensor.sizes * dataTypeSize tensor.dataType).toNat
                  = rawBytes (before ++ [some tensor]) := by
                rw [rawBytes_concat hconst, rawBytes_of_fits hfits, ← hsize, UInt64.toNat_add,
                  UInt64.toNat_mul, Nat.add_mod_mod, Nat.mod_eq_of_lt hsum]
              rw [if_pos hsum, ih hnext]
              exact ⟨fun h => ⟨⟨hfits, fun _ => hsum⟩, fun _ => h⟩, fun h => h.2 hstop⟩
            · rw [if_neg hsum]
              refine iff_of_false Bool.false_ne_true ?_
              rintro ⟨⟨-, hfit⟩, -⟩
              exact hsum (hfit hstop)
        · rw [← MindIRTensor.sizes, checked_prod_eq_none hfits]
          exact iff_of_false Bool.false_ne_true fun h => hfits h.1.1
      · have hfirst : ¬ StopsAt before (some tensor) := fun hstop => hconst hstop.1
        rw [if_pos hconst, ih (by rwa [rawBytes_concat_of_ne hconst])]
        exact ⟨fun h => ⟨(absurd · hconst), fun _ => h⟩, fun h => h.2 hfirst⟩

end Loop

/-! ## The size -/

/-- A dimension is converted to the word that stands for it. -/
theorem standsFor_dimAsSize (dim : Int32) : StandsFor (dimAsSize dim).toNat dim.toInt := by
  have hint : dim.toInt64.toInt = dim.toInt := Int32.toInt_toInt64 dim
  have hnat : (dimAsSize dim).toNat = dim.toInt64.toBitVec.toNat := rfl
  have hbmod : dim.toInt64.toInt = dim.toInt64.toBitVec.toInt := rfl
  have hle := dim.le_toInt
  have hlt := dim.toInt_lt
  have hword := dim.toInt64.toBitVec.isLt
  rw [hbmod, BitVec.toInt_eq_toNat_cond] at hint
  constructor
  · show (_ : Int) % 2 ^ 64 = _ % 2 ^ 64
    omega
  · omega

theorem MindIRTensor.standsFor_rawBytes (tensor : MindIRTensor) :
    StandsFor tensor.rawBytes tensor.bytes := by
  unfold MindIRTensor.rawBytes MindIRTensor.rawElements MindIRTensor.sizes
  rw [List.map_map]
  exact (StandsFor.list_prod fun dim _ => standsFor_dimAsSize dim).mul (StandsFor.natCast _)

theorem standsFor_rawBytes (tensors : List (Option MindIRTensor)) :
    StandsFor (rawBytes tensors) (constantBytes tensors) :=
  StandsFor.list_sum fun tensor _ => tensor.standsFor_rawBytes

section Size

variable {tensors : List (Option MindIRTensor)}

theorem getModelSizeFromModel_of_stops (h : Stops tensors) :
    getModelSizeFromModel (some tensors) = 0 :=
  (@addTensors_wrapping [] tensors 0 rfl).1 h

theorem toNat_getModelSizeFromModel (h : ¬ Stops tensors) :
    (getModelSizeFromModel (some tensors)).toNat = rawBytes tensors % 2 ^ 64 :=
  (@addTensors_wrapping [] tensors 0 rfl).2 h

/-- **The answer is 0 or the sum** where the loop stops, and where the sum is a multiple of
`2 ^ 64` or fits a word. -/
theorem getModelSizeFromModel_exact_iff (tensors : List (Option MindIRTensor)) :
    (getModelSizeFromModel (some tensors) = 0 ∨
        (getModelSizeFromModel (some tensors)).toNat = constantBytes tensors) ↔
      Stops tensors ∨ 2 ^ 64 ∣ constantBytes tensors ∨
        0 ≤ constantBytes tensors ∧ constantBytes tensors < 2 ^ 64 := by
  by_cases hstops : Stops tensors
  · exact iff_of_true (.inl (getModelSizeFromModel_of_stops hstops)) (.inl hstops)
  · rw [or_iff_right hstops, ← (standsFor_rawBytes tensors).zero_or_exact_iff,
      ← toNat_getModelSizeFromModel hstops, ← UInt64.toNat_inj, UInt64.toNat_zero]

/-- Nothing wraps where the constant tensors fit, up to where the loop stops. -/
theorem modelSizeWith_checked_iff (tensors : List (Option MindIRTensor)) :
    modelSizeWith checked (some tensors) = some (getModelSizeFromModel (some tensors)) ↔
      TensorsFit tensors := by
  have hfit := @checked_isSome_iff [] tensors 0 rfl
  unfold TensorsFit
  rw [← hfit]
  constructor
  · intro hsome
    exact Option.isSome_iff_exists.mpr ⟨_, hsome⟩
  · intro hsome
    obtain ⟨size, hsize⟩ := Option.isSome_iff_exists.mp hsome
    have hanswer : getModelSizeFromModel (some tensors) = size :=
      agrees_addTensors tensors 0 size hsize
    rw [hanswer]
    exact hsize

end Size

/-- The check of a compilation with a model. -/
theorem checkExceedRamLimit_model {c : SizedCompilation} (h : c.nnModel = true)
    (modelSize : UInt64) (isExceedRamLimit : Bool) :
    checkExceedRamLimit (some c) (.ok modelSize) isExceedRamLimit
      = if modelSize = 0 then .ok (.invalidParameter, some c, isExceedRamLimit)
        else .ok (.success, some { c with modelSize := modelSize },
          decide (modelSize > modelMaxLimit)) := by
  have hsize : getModelSize c (.ok modelSize) = .ok (.success, modelSize) := if_pos h
  unfold checkExceedRamLimit
  dsimp only
  rw [hsize]
  by_cases hzero : modelSize = 0
  · rw [if_pos hzero, hzero]
    rfl
  · rw [if_neg hzero]
    exact if_neg hzero

/-- A size that is 0 or exact does not make a model above the limit one below it. -/
theorem checkExceedRamLimit_ne_of_exact {total : Int} {modelSize : UInt64}
    (hexact : modelSize = 0 ∨ modelSize.toNat = total) (habove : modelMaxLimit.toNat < total)
    {c : SizedCompilation} (hmodel : c.nnModel = true) (isExceedRamLimit : Bool)
    (c' : Option SizedCompilation) :
    checkExceedRamLimit (some c) (.ok modelSize) isExceedRamLimit ≠ .ok (.success, c', false) := by
  rw [checkExceedRamLimit_model hmodel]
  by_cases hzero : modelSize = 0
  · rw [if_pos hzero]
    intro heq
    cases heq
  · have hsize := hexact.resolve_left hzero
    have hgreater : modelSize > modelMaxLimit := by
      show modelMaxLimit < modelSize
      rw [UInt64.lt_iff_toNat_lt]
      omega
    rw [if_neg hzero, decide_eq_true hgreater]
    intro heq
    cases heq

/-- **The size of a model is exact or 0, and nothing wraps on the way to it**, exactly where
the constant tensors up to where the loop stops fit, and where it does not stop the sum is
not negative. -/
theorem sizesExactly_iff (tensors : List (Option MindIRTensor)) :
    SizesExactly tensors ↔
      TensorsFit tensors ∧ (Stops tensors ∨ 0 ≤ constantBytes tensors) := by
  have hfits (hfit : TensorsFit tensors) (hgoes : ¬ Stops tensors) : rawBytes tensors < 2 ^ 64 :=
    @rawBytes_lt_of_fit [] tensors (by decide) hfit hgoes
  have hstands := standsFor_rawBytes tensors
  constructor
  · intro h
    have hfit := (modelSizeWith_checked_iff tensors).mp h.no_wrap
    refine ⟨hfit, or_iff_not_imp_left.mpr fun hgoes => ?_⟩
    rw [← hstands.nonneg_of_fits (hfits hfit hgoes)]
    exact ((getModelSizeFromModel_exact_iff tensors).mp h.exact).resolve_left hgoes
  · rintro ⟨hfit, hsum⟩
    have hexact := (getModelSizeFromModel_exact_iff tensors).mpr <| by
      by_cases hstops : Stops tensors
      · exact .inl hstops
      · exact .inr ((hstands.nonneg_of_fits (hfits hfit hstops)).mpr (hsum.resolve_left hstops))
    exact ⟨hexact, (modelSizeWith_checked_iff tensors).mpr hfit,
      fun habove _ _ _ _ _ _ _ _ hmodel =>
        checkExceedRamLimit_ne_of_exact hexact habove hmodel _ _⟩

/-! ## A model above the limit -/

/-- A constant tensor of floats. -/
def floats (dims : List Int32) : Option MindIRTensor :=
  some ⟨⟨cString [], .float32, dims, some .nhwc, [], []⟩, mindsporeConstNodeType⟩

/-- `2 ^ 62` numbers of four bytes each, and one more. -/
def wrappingTensors : List (Option MindIRTensor) :=
  [floats [1073741824, 1073741824, 4], floats [1]]

/-- They have `2 ^ 64 + 4` bytes and are taken for 4, so that nobody is asked to authenticate
the model. -/
theorem wrappingTensors_not_sizesExactly :
    getModelSizeFromModel (some wrappingTensors) = 4 ∧
    constantBytes wrappingTensors = 2 ^ 64 + 4 ∧
    (∀ service : NNRtService, authenticateModel service (some { nnModel := true })
        (.ok (getModelSizeFromModel (some wrappingTensors))) false
      = .ok ⟨.success, some { nnModel := true, modelSize := 4 }, false, false⟩) ∧
    ¬ SizesExactly wrappingTensors := by
  have hsize : getModelSizeFromModel (some wrappingTensors) = 4 := by decide
  have hbytes : constantBytes wrappingTensors = 2 ^ 64 + 4 := by decide
  refine ⟨hsize, hbytes, fun service => ?_, fun h => ?_⟩
  · rw [hsize]
    rfl
  · have hexact := h.exact
    rw [hsize, hbytes] at hexact
    revert hexact
    decide

end NNRt
