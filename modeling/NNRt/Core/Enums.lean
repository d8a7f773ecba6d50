import NNRt.Core.Types

/-!
# Enumerations of the C interface

The enumerations of the header that the modelled functions use, in its order
and with their codes where a number is stored. The
`Validate*` functions of the runtime accept exactly the enumerators, so an
argument that comes from a caller or a file is an `Option`, where `none` stands
for a value outside the enumeration.
-/

namespace NNRt

/-- `OH_NN_DataType`. -/
inductive DataType
  | unknown | bool | int8 | int16 | int32 | int64 | uint8 | uint16 | uint32 | uint64 | float16
  | float32 | float64
  deriving DecidableEq, Repr

/-- `OH_NN_Format`. -/
inductive Format
  | none | nchw | nhwc | nd
  deriving DecidableEq, Repr

/-- `OH_NN_PerformanceMode`. -/
inductive PerformanceMode
  | none | low | medium | high | extreme
  deriving DecidableEq, Repr

/-- `OH_NN_Priority`. -/
inductive Priority
  | none | low | medium | high
  deriving DecidableEq, Repr

/-- `OH_NN_TensorType`: an ordinary tensor, or which parameter of which
operation a tensor is. -/
inductive TensorType
  | tensor | addActivationtype | avgPoolKernelSize | avgPoolStride | avgPoolPadMode
  | avgPoolPad | avgPoolActivationType | batchNormEpsilon | batchToSpaceNdBlocksize
  | batchToSpaceNdCrops | concatAxis | conv2dStrides | conv2dPad | conv2dDilation
  | conv2dPadMode | conv2dActivationType | conv2dGroup | conv2dTransposeStrides
  | conv2dTransposePad | conv2dTransposeDilation | conv2dTransposeOutputPaddings
  | conv2dTransposePadMode | conv2dTransposeActivationType | conv2dTransposeGroup
  | depthwiseConv2dNativeStrides | depthwiseConv2dNativePad | depthwiseConv2dNativeDilation
  | depthwiseConv2dNativePadMode | depthwiseConv2dNativeActivationType | divActivationtype
  | eltwiseMode | fullConnectionAxis | fullConnectionActivationtype | matmulTransposeA
  | matmulTransposeB | matmulActivationType | maxPoolKernelSize | maxPoolStride
  | maxPoolPadMode | maxPoolPad | maxPoolActivationType | mulActivationType | oneHotAxis
  | padConstantValue | scaleActivationtype | scaleAxis | softmaxAxis | spaceToBatchNdBlockShape
  | spaceToBatchNdPaddings | splitAxis | splitOutputNum | splitSizeSplits | squeezeAxis
  | stackAxis | stridedSliceBeginMask | stridedSliceEndMask | stridedSliceEllipsisMask
  | stridedSliceNewAxisMask | stridedSliceShrinkAxisMask | subActivationtype
  | reduceMeanKeepDims | resizeBilinearNewHeight | resizeBilinearNewWidth
  | resizeBilinearPreserveAspectRatio | resizeBilinearCoordinateTransformMode
  | resizeBilinearExcludeOutside | layerNormBeginNormAxis | layerNormEpsilon
  | layerNormBeginParamAxis | layerNormElementwiseAffine | reduceProdKeepDims
  | reduceAllKeepDims | quantDtypeCastSrcT | quantDtypeCastDstT | topKSorted | argMaxAxis
  | argMaxKeepdims | unsqueezeAxis | unstackAxis | flattenAxis | depthToSpaceBlockSize
  | depthToSpaceMode | rangeStart | rangeLimit | rangeDelta | constantOfShapeDataType
  | constantOfShapeValue | broadcastToShape | instanceNormEpsilon | expBase | expScale
  | expShift | leakyReluNegativeSlope | lstmBidirectional | lstmHasBias | lstmInputSize
  | lstmHiddenSize | lstmNumLayers | lstmNumDirections | lstmDropout | lstmZoneoutCell
  | lstmZoneoutHidden | lstmProjSize | clipMax | clipMin | allKeepDims | assertSummarize
  | powScale | powShift | avgPoolRoundMode | avgPoolGlobal | fullConnectionHasBias
  | fullConnectionUseAxis | geluApproximate | maxPoolRoundMode | maxPoolGlobal | padPaddingMode
  | reduceMeanReduceToEnd | reduceMeanCoeff | reduceProdReduceToEnd | reduceProdCoeff
  | reduceAllReduceToEnd | reduceAllCoeff | topKAxis | argMaxTopK | argMaxOutMaxValue
  | quantDtypeCastAxis | sliceAxes | tileDims | cropAxis | cropOffset
  | detectionPostProcessInputSize | detectionPostProcessScale
  | detectionPostProcessNmsIouThreshold | detectionPostProcessNmsScoreThreshold
  | detectionPostProcessMaxDetections | detectionPostProcessDetectionsPerClass
  | detectionPostProcessMaxClassesPerDetection | detectionPostProcessNumClasses
  | detectionPostProcessUseRegularNms | detectionPostProcessOutQuantized | l2NormalizeAxis
  | l2NormalizeEpsilon | l2NormalizeActivationType | logSoftmaxAxis | lrnDepthRadius | lrnBias
  | lrnAlpha | lrnBeta | lrnNormRegion | spaceToDepthBlockSize | reduceMaxKeepDims
  | reduceMaxReduceToEnd | reduceMaxCoeff | reduceMinKeepDims | reduceMinReduceToEnd
  | reduceMinCoeff | reduceSumKeepDims | reduceSumReduceToEnd | reduceSumCoeff
  | reduceL2KeepDims | reduceL2ReduceToEnd | reduceL2Coeff
  deriving DecidableEq, Repr

/-- `OH_NN_OperationType`. -/
inductive OperationType
  | add | avgPool | batchNorm | batchToSpaceNd | biasAdd | cast | concat | conv2d
  | conv2dTranspose | depthwiseConv2dNative | div | eltwise | expandDims | fill
  | fullConnection | gather | hswish | lessEqual | matmul | maximum | maxPool | mul | oneHot
  | pad | pow | scale | shape | sigmoid | slice | softmax | spaceToBatchNd | split | sqrt
  | squaredDifference | squeeze | stack | stridedSlice | sub | tanh | tile | transpose
  | reduceMean | resizeBilinear | rsqrt | reshape | prelu | relu | relu6 | layerNorm
  | reduceProd | reduceAll | quantDtypeCast | topK | argMax | unsqueeze | gelu | unstack | abs
  | erf | exp | less | select | square | flatten | depthToSpace | range | instanceNorm
  | constantOfShape | broadcastTo | equal | greater | notEqual | greaterEqual | leakyRelu
  | lstm | clip | all | assert | cos | log | logicalAnd | logicalNot | mod | neg | reciprocal
  | sin | «where» | sparseToDense | logicalOr | ceil | crop | detectionPostProcess | floor
  | l2Normalize | logSoftmax | lrn | minimum | rank | reduceMax | reduceMin | reduceSum | round
  | scatterNd | spaceToDepth | swish | reduceL2 | hardSigmoid | gatherNd
  deriving DecidableEq, Repr

namespace DataType

/-- The enumerators, by code. -/
def all : List DataType :=
  [.unknown, .bool, .int8, .int16, .int32, .int64, .uint8, .uint16, .uint32, .uint64, .float16,
    .float32, .float64]

def code (dataType : DataType) : UInt32 :=
  UInt32.ofNat dataType.ctorIdx

/-- `ValidateTensorDataType` with the enumerator it accepts. -/
def ofCode? (code : UInt32) : Option DataType :=
  all[code.toNat]?

@[simp] theorem ofCode?_code (dataType : DataType) : ofCode? dataType.code = some dataType := by
  cases dataType <;> rfl

/-- `GetTypeSize`. -/
def typeSize : DataType → UInt32
  | .bool | .int8 | .uint8 => 1
  | .int16 | .uint16 | .float16 => 2
  | .int32 | .uint32 | .float32 => 4
  | .int64 | .uint64 | .float64 => 8
  | .unknown => 0

end DataType

namespace Format

def code (format : Format) : UInt32 :=
  UInt32.ofNat format.ctorIdx

/-- `ValidateTensorFormat` with the enumerator it accepts. -/
def ofCode? (code : UInt32) : Option Format :=
  [Format.none, .nchw, .nhwc, .nd][code.toNat]?

@[simp] theorem ofCode?_code (format : Format) : ofCode? format.code = some format := by
  cases format <;> rfl

end Format

/-- The number an `OH_NN_TensorType` is stored as. -/
def TensorType.code (tensorType : TensorType) : UInt32 :=
  UInt32.ofNat tensorType.ctorIdx

end NNRt
