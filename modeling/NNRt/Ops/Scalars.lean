import NNRt.Ops.Setters

/-!
# Builders with scalar parameters

Builders whose members are single numbers, flags or activation types. A member
that is alone is its own state.
-/

namespace NNRt.Ops

/-! ## Fused activation only -/

/-- A binary operation with a fused activation as its only parameter. -/
def fused (opName : String) (type : TensorType) (checks : List Check)
    (primitive : ActivationType → Primitive) : OpsBuilder ActivationType where
  opName := opName
  init := .noActivation
  checkIO := checkIOIndex 2 1
  paramNum := 1
  paramMap := [(type, activationSetter checks fun _ activationType => activationType)]
  setsQuantType := .late
  primitive activationType := .ok (some (primitive activationType))

/-- `AddBuilder`, which alone of the four takes a parameter of any length. -/
def addBuilder : OpsBuilder ActivationType :=
  fused "Add" .addActivationtype [.mark, .dataType .int8, .buffer] .addFusion

def divBuilder : OpsBuilder ActivationType :=
  fused "Div" .divActivationtype [.mark, .elementCount 1, .dataType .int8, .buffer] .divFusion

def mulBuilder : OpsBuilder ActivationType :=
  fused "Mul" .mulActivationType [.mark, .elementCount 1, .dataType .int8, .buffer] .mulFusion

/-- `SubBuilder`, whose loop marks the parameter. -/
def subBuilder : OpsBuilder ActivationType where
  __ := fused "Sub" .subActivationtype (scalarOf .int8) .subFusion
  marksParams := true

/-! ## One number or flag -/

/-- A builder with one 64-bit integer as its only parameter, marked by the
loop over the parameters. -/
def oneInt64 (opName : String) (inputNum : Nat) (type : TensorType) (init : Int64)
    (primitive : Int64 → Primitive) : OpsBuilder Int64 where
  opName := opName
  init := init
  checkIO := checkIOIndex inputNum 1
  paramNum := 1
  marksParams := true
  paramMap := [(type, int64Setter (scalarOf .int64) fun _ value => value)]
  primitive value := .ok (some (primitive value))

def allBuilder : OpsBuilder Int64 :=
  oneInt64 "All" 2 .allKeepDims 0 .all

def assertBuilder : OpsBuilder Int64 :=
  oneInt64 "Assert" 2 .assertSummarize 0 .assert

def flattenBuilder : OpsBuilder Int64 :=
  oneInt64 "Flatten" 1 .flattenAxis 1 .flatten

def logSoftmaxBuilder : OpsBuilder Int64 :=
  oneInt64 "LogSoftmax" 1 .logSoftmaxAxis 0 .logSoftmax

def spaceToDepthBuilder : OpsBuilder Int64 :=
  oneInt64 "SpaceToDepth" 1 .spaceToDepthBlockSize 0 fun blockSize =>
    .spaceToDepth blockSize .nchw

/-- `OnehotBuilder`, whose setter marks the parameter. -/
def onehotBuilder : OpsBuilder Int64 where
  opName := "Onehot"
  init := -1
  checkIO := checkIOIndex 4 1
  paramNum := 1
  paramMap := [(.oneHotAxis, int64Setter [.mark, .dataType .int64, .buffer] fun _ axis => axis)]
  primitive axis := .ok (some (.oneHot axis))

/-- `ConcatBuilder`, with two inputs or more. -/
def concatBuilder : OpsBuilder Int64 where
  opName := "Concat"
  init := 0
  checkIO inputs outputs tensors :=
    if inputs.length < 2 ∨ outputs.length ≠ 1 then .invalidParameter
    else checkRange inputs outputs tensors
  paramNum := 1
  paramMap := [(.concatAxis,
    int64Setter [.mark, .elementCount 1, .dataType .int64, .buffer] fun _ axis => axis)]
  setsQuantType := .late
  primitive axis := .ok (some (.concat axis))

/-- `StackBuilder`, with two inputs or more, whose indices it does not check. -/
def stackBuilder : OpsBuilder Int64 where
  opName := "Stack"
  init := 0
  checkIO inputs outputs _ :=
    if inputs.length < 2 ∨ outputs.length ≠ 1 then .invalidParameter else .success
  paramNum := 1
  marksParams := true
  paramMap := [(.stackAxis, int64Setter (scalarOf .int64) fun _ axis => axis)]
  primitive axis := .ok (some (.stack axis))

/-- `UnstackBuilder`, with one output or more. -/
def unstackBuilder : OpsBuilder Int64 where
  opName := "Unstack"
  init := 0
  checkIO inputs outputs tensors :=
    if inputs.length ≠ 1 ∨ outputs.length < 1 then .invalidParameter
    else checkRange inputs outputs tensors
  paramNum := 1
  marksParams := true
  paramMap := [(.unstackAxis, int64Setter (scalarOf .int64) fun _ axis => axis)]
  primitive axis := .ok (some (.unstack axis))

def batchNormBuilder : OpsBuilder UInt32 where
  opName := "BatchNorm"
  init := 0x38d1b717
  checkIO := checkIOIndex 5 1
  paramNum := 1
  paramMap := [(.batchNormEpsilon,
    floatSetter [.mark, .dataType .float32, .elementCount 1, .buffer] fun _ epsilon => epsilon)]
  setsQuantType := .late
  primitive epsilon := .ok (some (.fusedBatchNorm epsilon))

def instanceNormBuilder : OpsBuilder UInt32 where
  opName := "InstanceNorm"
  init := 0
  checkIO := checkIOIndex 3 1
  paramNum := 1
  marksParams := true
  paramMap := [(.instanceNormEpsilon, floatSetter (scalarOf .float32) fun _ epsilon => epsilon)]
  primitive epsilon := .ok (some (.instanceNorm epsilon))

def leakyReluBuilder : OpsBuilder UInt32 where
  opName := "LeakyRelu"
  init := 0
  checkIO := checkIOIndex 1 1
  paramNum := 1
  marksParams := true
  paramMap := [(.leakyReluNegativeSlope, floatSetter (scalarOf .float32) fun _ slope => slope)]
  primitive negativeSlope := .ok (some (.activation .leakyRelu negativeSlope 0 0 false))

def geluBuilder : OpsBuilder Bool where
  opName := "Gelu"
  init := false
  checkIO := checkIOIndex 1 1
  paramNum := 1
  marksParams := true
  paramMap := [(.geluApproximate, boolSetter (scalarOf .bool) fun _ approximate => approximate)]
  primitive approximate := .ok (some (.activation .gelu 0 0 0 approximate))

/-- The `EltwiseMode` of a code. -/
def eltwiseMode (mode : Int8) : Option EltwiseMode :=
  [(0, EltwiseMode.prod), (1, .sum), (2, .maximum), (3, .unknown)].lookup mode

def eltwiseBuilder : OpsBuilder EltwiseMode where
  opName := "Eltwise"
  init := .prod
  checkIO := checkIOIndex 2 1
  paramNum := 1
  paramMap := [(.eltwiseMode, storesDecoded [.mark, .dataType .int8, .elementCount 1, .buffer]
    Tensor.int8 eltwiseMode fun _ mode => mode)]
  setsQuantType := .late
  primitive mode := .ok (some (.eltwise mode))

/-! ## Several members -/

structure ArgMax where
  axis : Int64 := -1
  topK : Int64 := 1
  keepDims : Bool := false
  outMaxValue : Bool := false

def argMaxBuilder : OpsBuilder ArgMax where
  opName := "ArgMax"
  init := {}
  checkIO := checkIOIndex 1 1
  paramNum := 4
  paramMap :=
    [(.argMaxAxis, int64Setter [.mark, .dataType .int64, .buffer]
        fun s axis => { s with axis := axis }),
      (.argMaxKeepdims, boolSetter [.mark, .dataType .bool, .buffer]
        fun s keepDims => { s with keepDims := keepDims }),
      (.argMaxTopK, int64Setter [.mark, .dataType .int64, .buffer]
        fun s topK => { s with topK := topK }),
      (.argMaxOutMaxValue, boolSetter [.mark, .dataType .bool, .buffer]
        fun s outMaxValue => { s with outMaxValue := outMaxValue })]
  setsQuantType := .late
  primitive s := .ok (some (.argMaxFusion s.axis s.topK s.keepDims s.outMaxValue))

structure Clip where
  max : UInt32 := 0
  min : UInt32 := 0

def clipBuilder : OpsBuilder Clip where
  opName := "Clip"
  init := {}
  checkIO := checkIOIndex 1 1
  paramNum := 2
  marksParams := true
  paramMap :=
    [(.clipMax, floatSetter (scalarOf .float32) fun s max => { s with max := max }),
      (.clipMin, floatSetter (scalarOf .float32) fun s min => { s with min := min })]
  primitive s := .ok (some (.clip s.max s.min))

structure DepthToSpace where
  blockSize : Int64 := 0
  mode : String := ""

/-- `modeList` of `DepthToSpaceBuilder`. -/
def depthToSpaceModes (key : Int32) : Option String :=
  [(0, "DCR"), (1, "CRD")].lookup key

def depthToSpaceBuilder : OpsBuilder DepthToSpace where
  opName := "DepthToSpace"
  init := {}
  checkIO := checkIOIndex 1 1
  paramNum := 2
  marksParams := true
  paramMap :=
    [(.depthToSpaceBlockSize, int64Setter (scalarOf .int64)
        fun s blockSize => { s with blockSize := blockSize }),
      (.depthToSpaceMode, storesDecoded [.dataType .int32, .buffer] Tensor.int32
        depthToSpaceModes fun s mode => { s with mode := mode })]
  primitive s := .ok (some (.depthToSpace s.blockSize .nchw s.mode))

structure Exp where
  base : UInt32 := 0xbf800000
  scale : UInt32 := 0x3f800000
  shift : UInt32 := 0

def expBuilder : OpsBuilder Exp where
  opName := "Exp"
  init := {}
  checkIO := checkIOIndex 1 1
  paramNum := 3
  marksParams := true
  paramMap :=
    [(.expBase, floatSetter (scalarOf .float32) fun s base => { s with base := base }),
      (.expScale, floatSetter (scalarOf .float32) fun s scale => { s with scale := scale }),
      (.expShift, floatSetter (scalarOf .float32) fun s shift => { s with shift := shift })]
  primitive s := .ok (some (.expFusion s.base s.scale s.shift))

structure LRN where
  depthRadius : Int64 := 0
  bias : UInt32 := 0
  alpha : UInt32 := 0
  beta : UInt32 := 0
  normRegion : String := "ACROSS_CHANNELS"

/-- `normRegionList` of `LRNBuilder`. -/
def normRegions (key : Int32) : Option String :=
  [(0, "ACROSS_CHANNELS")].lookup key

def lrnBuilder : OpsBuilder LRN where
  opName := "LRN"
  init := {}
  checkIO := checkIOIndex 1 1
  paramNum := 5
  marksParams := true
  paramMap :=
    [(.lrnAlpha, floatSetter (scalarOf .float32) fun s alpha => { s with alpha := alpha }),
      (.lrnDepthRadius, int64Setter (scalarOf .int64)
        fun s depthRadius => { s with depthRadius := depthRadius }),
      (.lrnBias, floatSetter (scalarOf .float32) fun s bias => { s with bias := bias }),
      (.lrnBeta, floatSetter (scalarOf .float32) fun s beta => { s with beta := beta }),
      (.lrnNormRegion, storesDecoded (scalarOf .int32) Tensor.int32 normRegions
        fun s normRegion => { s with normRegion := normRegion })]
  primitive s := .ok (some (.lrn s.depthRadius s.bias s.alpha s.beta s.normRegion))

structure Matmul where
  activationType : ActivationType := .noActivation
  transposeA : Bool := false
  transposeB : Bool := false

def matmulBuilder : OpsBuilder Matmul where
  opName := "Matmul"
  init := {}
  checkIO := checkIOIndex 2 1
  paramNum := 3
  paramMap :=
    [(.matmulTransposeA, boolSetter [.mark, .elementCount 1, .dataType .bool, .buffer]
        fun s transposeA => { s with transposeA := transposeA }),
      (.matmulTransposeB, boolSetter [.mark, .elementCount 1, .dataType .bool, .buffer]
        fun s transposeB => { s with transposeB := transposeB }),
      (.matmulActivationType, activationSetter [.mark, .elementCount 1, .dataType .int8, .buffer]
        fun s activationType => { s with activationType := activationType })]
  setsQuantType := .late
  primitive s := .ok (some (.matMulFusion s.transposeA s.transposeB s.activationType))

structure Pad where
  constantValue : UInt32 := 0
  paddingMode : PaddingMode := .constant

/-- `paddingList` of `PadBuilder`. -/
def paddingModes (key : Int32) : Option PaddingMode :=
  [(0, PaddingMode.constant), (1, .reflect), (2, .symmetric), (3, .reserved)].lookup key

def padBuilder : OpsBuilder Pad where
  opName := "Pad"
  init := {}
  checkIO := checkIOIndex 2 1
  paramNum := 2
  paramMap :=
    [(.padConstantValue, floatSetter [.mark, .elementCount 1, .dataType .float32, .buffer]
        fun s constantValue => { s with constantValue := constantValue }),
      (.padPaddingMode, storesDecoded [.mark, .elementCount 1, .dataType .int32, .buffer]
        Tensor.int32 paddingModes fun s paddingMode => { s with paddingMode := paddingMode })]
  setsQuantType := .late
  primitive s := .ok (some (.padFusion [] s.paddingMode s.constantValue))

structure Pow where
  scale : UInt32 := 0x3f800000
  shift : UInt32 := 0

def powBuilder : OpsBuilder Pow where
  opName := "Pow"
  init := {}
  checkIO := checkIOIndex 2 1
  paramNum := 2
  marksParams := true
  paramMap :=
    [(.powScale, floatSetter (scalarOf .float32) fun s scale => { s with scale := scale }),
      (.powShift, floatSetter (scalarOf .float32) fun s shift => { s with shift := shift })]
  setsQuantType := .early
  primitive s := .ok (some (.powFusion s.scale s.shift))

/-- The members of `QuantDTypeCastBuilder`. Two of them are pointers into the
buffers of parameter tensors, kept here as the tensors: no call replaces a
buffer or writes to it once it is set. -/
structure QuantDTypeCast where
  srcT : Option Tensor := none
  dstT : Option Tensor := none
  axis : Int64 := 0

def quantDTypeCastBuilder : OpsBuilder QuantDTypeCast where
  opName := "QuantDTypeCast"
  init := {}
  checkIO := checkIOIndex 1 1
  paramNum := 3
  paramMap :=
    [(.quantDtypeCastSrcT,
        { checks := [.mark, .dataType .int64, .buffer]
          store := fun s t => .ok (some { s with srcT := some t }) }),
      (.quantDtypeCastDstT,
        { checks := [.mark, .dataType .int64, .buffer]
          store := fun s t => .ok (some { s with dstT := some t }) }),
      (.quantDtypeCastAxis, int64Setter [.mark, .dataType .int64, .buffer]
        fun s axis => { s with axis := axis })]
  primitive s :=
    match s.srcT, s.dstT with
    | some srcT, some dstT => do
      return some (.quantDTypeCast (← srcT.uint64) (← dstT.uint64) s.axis)
    | _, _ => .ok none

structure Range where
  start : Int64 := 0
  limit : Int64 := 0
  delta : Int64 := 1

def rangeBuilder : OpsBuilder Range where
  opName := "Range"
  init := {}
  checkIO := checkIOIndex 1 1
  paramNum := 3
  marksParams := true
  paramMap :=
    [(.rangeStart, int64Setter (scalarOf .int64) fun s start => { s with start := start }),
      (.rangeLimit, int64Setter (scalarOf .int64) fun s limit => { s with limit := limit }),
      (.rangeDelta, int64Setter (scalarOf .int64) fun s delta => { s with delta := delta })]
  primitive s := .ok (some (.range 0 s.start s.limit s.delta))

structure ResizeBilinear where
  newHeight : UInt64 := 0
  newWidth : UInt64 := 0
  preserveAspectRatio : Bool := false
  coordinateTransformMode : Int8 := 0
  excludeOutside : UInt64 := 0

def resizeBilinearBuilder : OpsBuilder ResizeBilinear where
  opName := "ResizeBilinear"
  init := {}
  checkIO := checkIOIndex 1 1
  paramNum := 5
  paramMap :=
    [(.resizeBilinearNewHeight, stores [.mark, .elementCount 1, .dataType .int64, .buffer]
        Tensor.uint64 fun s newHeight => { s with newHeight := newHeight }),
      (.resizeBilinearNewWidth, stores [.mark, .elementCount 1, .dataType .int64, .buffer]
        Tensor.uint64 fun s newWidth => { s with newWidth := newWidth }),
      (.resizeBilinearPreserveAspectRatio,
        boolSetter [.mark, .elementCount 1, .dataType .bool, .buffer]
          fun s preserve => { s with preserveAspectRatio := preserve }),
      (.resizeBilinearCoordinateTransformMode,
        stores [.mark, .elementCount 1, .dataType .int8, .buffer] Tensor.int8
          fun s mode => { s with coordinateTransformMode := mode }),
      (.resizeBilinearExcludeOutside, stores [.mark, .elementCount 1, .dataType .int64, .buffer]
        Tensor.uint64 fun s excludeOutside => { s with excludeOutside := excludeOutside })]
  setsQuantType := .late
  primitive s := .ok (some (.resize .linear s.newHeight s.newWidth s.preserveAspectRatio
    s.coordinateTransformMode 0 s.excludeOutside 0 .normal))

/-- The members of `ScaleBuilder`; the axis is a pointer into a tensor's buffer,
kept as the tensor. -/
structure Scale where
  activationType : ActivationType := .noActivation
  axis : Option Tensor := none

/-- `ScaleBuilder`, whose `GetPrimitive` follows the axis without a check. -/
def scaleBuilder : OpsBuilder Scale where
  opName := "Scale"
  init := {}
  checkIO := checkIOIndex 3 1
  paramNum := 2
  paramMap :=
    [(.scaleActivationtype, activationSetter [.mark, .dataType .int8, .elementCount 1, .buffer]
        fun s activationType => { s with activationType := activationType }),
      (.scaleAxis,
        { checks := [.mark, .dataType .int64, .elementCount 1, .buffer]
          store := fun s t => .ok (some { s with axis := some t }) })]
  setsQuantType := .late
  primitive s :=
    match s.axis with
    | some axis => do
      return some (.scaleFusion (← axis.uint64) s.activationType)
    | none => .error (.nullDeref .attribute)

structure StridedSlice where
  beginMask : Int64 := 0
  endMask : Int64 := 0
  ellipsisMask : Int64 := 0
  newAxisMask : Int64 := 0
  shrinkAxisMask : Int64 := 0

def stridedSliceBuilder : OpsBuilder StridedSlice where
  opName := "StridedSlice"
  init := {}
  checkIO := checkIOIndex 4 1
  paramNum := 5
  marksParams := true
  paramMap :=
    [(.stridedSliceBeginMask, int64Setter [.dataType .int64, .buffer]
        fun s mask => { s with beginMask := mask }),
      (.stridedSliceEndMask, int64Setter [.dataType .int64, .buffer]
        fun s mask => { s with endMask := mask }),
      (.stridedSliceEllipsisMask, int64Setter [.dataType .int64, .buffer]
        fun s mask => { s with ellipsisMask := mask }),
      (.stridedSliceNewAxisMask, int64Setter [.dataType .int64, .buffer]
        fun s mask => { s with newAxisMask := mask }),
      (.stridedSliceShrinkAxisMask, int64Setter [.dataType .int64, .buffer]
        fun s mask => { s with shrinkAxisMask := mask })]
  primitive s := .ok (some (.stridedSlice s.beginMask s.endMask s.ellipsisMask s.newAxisMask
    s.shrinkAxisMask))

structure TopK where
  axis : Int64 := 0
  sorted : Bool := true

def topKBuilder : OpsBuilder TopK where
  opName := "TopK"
  init := {}
  checkIO := checkIOIndex 2 2
  paramNum := 2
  marksParams := true
  paramMap :=
    [(.topKSorted, boolSetter [.dataType .bool, .buffer]
        fun s sorted => { s with sorted := sorted }),
      (.topKAxis, int64Setter (scalarOf .int64) fun s axis => { s with axis := axis })]
  primitive s := .ok (some (.topKFusion s.sorted s.axis))

/-! ## LSTM -/

/-- The conversion of a `float` to `int64_t`: towards zero, and undefined for
what the integer type does not hold. -/
def truncFloat (bits : UInt32) : Except Fault Int64 :=
  let exponent := bits.toNat / 2 ^ 23 % 2 ^ 8
  let mantissa := bits.toNat % 2 ^ 23 + 2 ^ 23
  let magnitude : Nat :=
    if exponent < 127 then 0
    else if exponent < 150 then mantissa / 2 ^ (150 - exponent)
    else mantissa * 2 ^ (exponent - 150)
  let value : Int := if bits.toNat < 2 ^ 31 then magnitude else -magnitude
  if exponent < 255 ∧ -2 ^ 63 ≤ value ∧ value < 2 ^ 63 then .ok (Int64.ofInt value)
  else .error .badConversion

structure LSTM where
  bidirectional : Bool := false
  hasBias : Bool := false
  inputSize : Int64 := 0
  hiddenSize : Int64 := 0
  numLayers : Int64 := 0
  numDirections : Int64 := 0
  dropout : UInt32 := 0
  zoneoutCell : UInt32 := 0
  zoneoutHidden : UInt32 := 0
  projSize : Int64 := 0

/-- `LSTMBuilder`. `SetProjSize` asks for 64-bit integers and reads a `float`. -/
def lstmBuilder : OpsBuilder LSTM where
  opName := "LSTM"
  init := {}
  checkIO := checkIOIndex 6 3
  paramNum := 10
  marksParams := true
  paramMap :=
    [(.lstmBidirectional, boolSetter (scalarOf .bool)
        fun s bidirectional => { s with bidirectional := bidirectional }),
      (.lstmHasBias, boolSetter (scalarOf .bool) fun s hasBias => { s with hasBias := hasBias }),
      (.lstmInputSize, int64Setter (scalarOf .int64) fun s size => { s with inputSize := size }),
      (.lstmHiddenSize, int64Setter (scalarOf .int64) fun s size => { s with hiddenSize := size }),
      (.lstmNumLayers, int64Setter (scalarOf .int64) fun s num => { s with numLayers := num }),
      (.lstmNumDirections, int64Setter (scalarOf .int64)
        fun s num => { s with numDirections := num }),
      (.lstmDropout, floatSetter (scalarOf .float32)
        fun s dropout => { s with dropout := dropout }),
      (.lstmZoneoutCell, floatSetter (scalarOf .float32)
        fun s zoneout => { s with zoneoutCell := zoneout }),
      (.lstmZoneoutHidden, floatSetter (scalarOf .float32)
        fun s zoneout => { s with zoneoutHidden := zoneout }),
      (.lstmProjSize, stores (scalarOf .int64) (fun t => do truncFloat (← t.float 0))
        fun s size => { s with projSize := size })]
  primitive s := .ok (some (.lstm s.bidirectional s.hasBias s.inputSize s.hiddenSize s.numLayers
    s.numDirections s.dropout s.zoneoutCell s.zoneoutHidden s.projSize))

/-! ## Reductions -/

structure Reduce where
  coeff : UInt32 := 0
  reduceToEnd : Bool := false
  keepDims : Bool := false

/-- A reduction. Its coefficient is the one parameter that nothing marks. -/
def reduce (opName : String) (coeff reduceToEnd keepDims : TensorType)
    (keepDimsChecks : List Check) (setsQuantType : QuantTypeCall) (mode : ReduceMode) :
    OpsBuilder Reduce where
  opName := opName
  init := {}
  checkIO := checkIOIndex 2 1
  paramNum := 3
  paramMap :=
    [(coeff, floatSetter (scalarOf .float32) fun s coeff => { s with coeff := coeff }),
      (reduceToEnd, boolSetter [.dataType .bool, .mark, .elementCount 1, .buffer]
        fun s reduceToEnd => { s with reduceToEnd := reduceToEnd }),
      (keepDims, boolSetter keepDimsChecks fun s keepDims => { s with keepDims := keepDims })]
  setsQuantType := setsQuantType
  primitive s := .ok (some (.reduceFusion s.keepDims mode s.reduceToEnd s.coeff))

def reduceAllBuilder : OpsBuilder Reduce :=
  reduce "ReduceAll" .reduceAllCoeff .reduceAllReduceToEnd .reduceAllKeepDims
    [.dataType .bool, .mark, .elementCount 1, .buffer] .never .all

def reduceL2Builder : OpsBuilder Reduce :=
  reduce "ReduceL2" .reduceL2Coeff .reduceL2ReduceToEnd .reduceL2KeepDims
    [.dataType .bool, .mark, .elementCount 1, .buffer] .never .l2

def reduceMaxBuilder : OpsBuilder Reduce :=
  reduce "ReduceMax" .reduceMaxCoeff .reduceMaxReduceToEnd .reduceMaxKeepDims
    [.dataType .bool, .mark, .elementCount 1, .buffer] .never .max

def reduceMeanBuilder : OpsBuilder Reduce :=
  reduce "ReduceMean" .reduceMeanCoeff .reduceMeanReduceToEnd .reduceMeanKeepDims
    [.mark, .elementCount 1, .dataType .bool, .buffer] .late .mean

def reduceMinBuilder : OpsBuilder Reduce :=
  reduce "ReduceMin" .reduceMinCoeff .reduceMinReduceToEnd .reduceMinKeepDims
    [.dataType .bool, .mark, .elementCount 1, .buffer] .never .min

def reduceProdBuilder : OpsBuilder Reduce :=
  reduce "ReduceProd" .reduceProdCoeff .reduceProdReduceToEnd .reduceProdKeepDims
    [.mark, .elementCount 1, .dataType .bool, .buffer] .late .prod

def reduceSumBuilder : OpsBuilder Reduce :=
  reduce "ReduceSum" .reduceSumCoeff .reduceSumReduceToEnd .reduceSumKeepDims
    [.dataType .bool, .mark, .elementCount 1, .buffer] .never .sum

end NNRt.Ops
