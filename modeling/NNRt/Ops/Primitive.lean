import NNRt.Core.Enums

/-!
# Primitives of the lite graph

What `GetPrimitive` of a builder returns: one constructor for each
`MindIR_*_CreatePrimitive` function the builders call, with its arguments in
order. A `float` is its bit pattern.
-/

namespace NNRt

/-- The `mindspore::lite::ActivationType`s the builders use. -/
inductive ActivationType
  | noActivation | relu | relu6 | sigmoid | tanh | abs | leakyRelu | gelu | hswish | hsigmoid
  | swish
  deriving DecidableEq, Repr

/-- `mindspore::lite::PadMode`. -/
inductive PadMode
  | pad | same | valid
  deriving DecidableEq, Repr

/-- `mindspore::lite::PaddingMode`. -/
inductive PaddingMode
  | constant | reflect | symmetric | reserved
  deriving DecidableEq, Repr

/-- `mindspore::lite::RoundMode`. -/
inductive RoundMode
  | floor | ceil
  deriving DecidableEq, Repr

/-- `mindspore::lite::EltwiseMode`. -/
inductive EltwiseMode
  | prod | sum | maximum | unknown
  deriving DecidableEq, Repr

/-- The `mindspore::lite::ReduceMode`s the builders use. -/
inductive ReduceMode
  | mean | max | min | prod | sum | all | l2
  deriving DecidableEq, Repr

/-- The `mindspore::lite::ResizeMethod` the builders use. -/
inductive ResizeMethod
  | linear
  deriving DecidableEq, Repr

/-- The `mindspore::lite::NearestMode` the builders use. -/
inductive NearestMode
  | normal
  deriving DecidableEq, Repr

/-- `OpsQuantType`. -/
inductive OpsQuantType
  | none | all
  deriving DecidableEq, Repr

/-- `mindspore::lite::QuantType`. -/
inductive QuantType
  | none | all
  deriving DecidableEq, Repr

/-- The `mindspore::lite::Format`s a tensor of the runtime can have. -/
inductive MSFormat
  | nchw | nhwc
  deriving DecidableEq, Repr

namespace NNToMS

/-- `TransformFormat`. -/
def transformFormat : Format → MSFormat
  | .nchw => .nchw
  | _ => .nhwc

/-- `TransfromFusionType` of a fuse type that `ValidateFuseType` accepts. -/
def transfromFusionType (fuseType : Int8) : Option ActivationType :=
  if fuseType = 0 then some .noActivation
  else if fuseType = 1 then some .relu
  else if fuseType = 2 then some .relu6
  else none

/-- `TransformQuantType`. -/
def transformQuantType : OpsQuantType → QuantType
  | .none => .none
  | .all => .all

/-- `TransformPadModeValue` of a mode that `ValidatePadMode` accepts. -/
def transformPadModeValue (padMode : Int8) : Option PadMode :=
  if padMode = 0 then some .same
  else if padMode = 1 ∨ padMode = 2 then some .valid
  else none

end NNToMS

/-- A primitive of the lite graph. -/
inductive Primitive
  | activation (activationType : ActivationType) (alpha minVal maxVal : UInt32)
      (approximate : Bool)
  | addFusion (activationType : ActivationType)
  | all (keepDims : Int64)
  | argMaxFusion (axis topK : Int64) (keepDims outMaxValue : Bool)
  | assert (summarize : Int64)
  | avgPoolFusion (kernelSize strides pad : List Int64) (padMode : PadMode)
      (roundMode : RoundMode) (format : MSFormat) (global : Bool)
      (activationType : ActivationType)
  | batchToSpaceND (blockSize : List Int64) (crops : List (List Int64))
  | fusedBatchNorm (epsilon : UInt32)
  | biasAdd
  | broadcastTo (shape : List Int64)
  | cast
  | ceil
  | clip (max min : UInt32)
  | concat (axis : Int64)
  | constantOfShape (dataType : Int64) (value : List UInt32)
  | conv2DFusion (kernelSize strides dilation : List Int64) (padMode : PadMode)
      (pad : List Int64) (group inChannel outChannel : Int64) (activationType : ActivationType)
  | conv2dTransposeFusion (kernelSize strides dilation : List Int64) (padMode : PadMode)
      (padList : List Int64) (group inChannel outChannel : Int64)
      (activationType : ActivationType) (outputPaddings : List Int64)
  | cos
  | crop (axis : Int64) (offset : List Int64)
  | depthToSpace (blockSize : Int64) (format : MSFormat) (mode : String)
  | detectionPostProcess (format : MSFormat) (inputSize : Int64) (scale : List UInt32)
      (nmsIoUThreshold nmsScoreThreshold : UInt32)
      (maxDetections detectionsPerClass maxClassesPerDetection numClasses : Int64)
      (useRegularNms outQuantized : Bool)
  | divFusion (activationType : ActivationType)
  | eltwise (mode : EltwiseMode)
  | equal
  | erf
  | expFusion (base scale shift : UInt32)
  | expandDims
  | fill
  | flatten (axis : Int64)
  | floor
  | fullConnection (hasBias useAxis : Bool) (axis : Int64) (activationType : ActivationType)
  | gather
  | gatherNd
  | greater
  | greaterEqual
  | instanceNorm (epsilon : UInt32)
  | l2NormalizeFusion (axis : List Int64) (epsilon : UInt32) (activationType : ActivationType)
  | layerNormFusion (beginNormAxis : Int64) (epsilon : UInt32) (elementwiseAffine : Bool)
      (beginParamsAxis : Int64)
  | less
  | lessEqual
  | log
  | logSoftmax (axis : Int64)
  | logicalAnd
  | logicalNot
  | logicalOr
  | lrn (depthRadius : Int64) (bias alpha beta : UInt32) (normRegion : String)
  | lstm (bidirectional hasBias : Bool) (inputSize hiddenSize numLayers numDirections : Int64)
      (dropout zoneoutCell zoneoutHidden : UInt32) (projSize : Int64)
  | matMulFusion (transposeA transposeB : Bool) (activationType : ActivationType)
  | maximum
  | maxPoolFusion (kernelSize strides pad : List Int64) (padMode : PadMode) (format : MSFormat)
      (global : Bool) (activationType : ActivationType)
  | minimum
  | mod
  | mulFusion (activationType : ActivationType)
  | neg
  | notEqual
  | oneHot (axis : Int64)
  | padFusion (paddings : List (List Int64)) (paddingMode : PaddingMode) (constantValue : UInt32)
  | powFusion (scale shift : UInt32)
  | pReLUFusion (channelShared : Bool)
  | quantDTypeCast (srcT dstT : UInt64) (axis : Int64)
  | range (dType start limit delta : Int64)
  | rank
  | reciprocal
  | reduceFusion (keepDims : Bool) (mode : ReduceMode) (reduceToEnd : Bool) (coeff : UInt32)
  | reshape
  | resize (method : ResizeMethod) (newHeight newWidth : UInt64) (preserveAspectRatio : Bool)
      (coordinateTransformMode : Int8) (cubicCoeff : UInt32) (excludeOutside : UInt64)
      (extrapolationValue : UInt32) (nearestMode : NearestMode)
  | round
  | rsqrt
  | scaleFusion (axis : UInt64) (activationType : ActivationType)
  | scatterNd
  | select
  | shape
  | sin
  | sliceFusion (axes : List Int64)
  | softmax (axis : List Int64)
  | spaceToBatchND (blockShape : List Int64) (paddings : List (List Int64))
  | spaceToDepth (blockSize : Int64) (format : MSFormat)
  | sparseToDense
  | split (outputNum : Int64) (sizeSplits : List Int64) (axis : Int64)
  | sqrt
  | square
  | squaredDifference
  | squeeze (axis : List Int64)
  | stack (axis : Int64)
  | stridedSlice (beginMask endMask ellipsisMask newAxisMask shrinkAxisMask : Int64)
  | subFusion (activationType : ActivationType)
  | tileFusion (dims : List Int64)
  | topKFusion (sorted : Bool) (axis : Int64)
  | transpose
  | unsqueeze (axis : List Int64)
  | unstack (axis : Int64)
  | «where»

end NNRt
