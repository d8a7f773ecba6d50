import NNRt.Core.Types

/-!
# The converters of version 2.1 of the driver

`lite_graph_to_hdi_model_v2_1.cpp` has a function for each type of node, which
fills a struct of the driver interface from the accessors of MindIR and
marshals it. A function is the list of its assignments here: which field is
filled from which accessor. All but one take every field from the accessor of
their own kind with the field's name.

What a converter does not look into is left open: the values of attributes, what
an accessor answers for a primitive of another kind, and the bytes of a struct.

An attribute has one name here, that of the field of the struct. MindIR calls
three of them otherwise: `GetOffsets` of a crop, `GetDType` of a range and
`GetNmsIouThreshold` of a detection.
-/

namespace NNRt

/-- The `NodeType`s with a converter, which are also the kinds of primitives. -/
inductive NodeType
  | activation | addFusion | all | argMaxFusion | assert | avgPoolFusion | batchToSpaceND
  | biasAdd | broadcastTo | cast | ceil | clip | concat | conv2DFusion | conv2dTransposeFusion
  | cos | constantOfShape | crop | depthToSpace | detectionPostProcess | divFusion | eltwise
  | equal | expFusion | expandDims | flatten | floor | fill | fullConnection | fusedBatchNorm
  | gather | gatherNd | greater | greaterEqual | instanceNorm | layerNormFusion | less
  | lessEqual | log | logicalAnd | logicalNot | logicalOr | lrn | lstm | l2NormalizeFusion
  | matMulFusion | maximum | maxPoolFusion | minimum | mod | mulFusion | neg | notEqual | oneHot
  | padFusion | powFusion | pReLUFusion | quantDTypeCast | rank | range | reciprocal
  | reduceFusion | reshape | resize | round | rsqrt | scaleFusion | scatterNd | shape | sin
  | sliceFusion | softmax | spaceToBatchND | spaceToDepth | sparseToDense | split | sqrt
  | squaredDifference | squeeze | square | stack | stridedSlice | subFusion | tileFusion
  | topKFusion | transpose | unsqueeze | unstack | «where» | select | erf | logSoftmax
  deriving DecidableEq, Repr

/-- The attributes of primitives and the fields of structs. -/
inductive Attribute
  | activationType | alpha | minVal | maxVal | approximate | keepDims | axis | topK | outMaxValue
  | summarize | kernelSize | strides | pad | padMode | roundMode | format | global | blockShape
  | crops | shape | max | min | stride | dilation | padList | group | inChannel | outChannel
  | outputPaddings | dataType | value | offset | blockSize | mode | inputSize | scale
  | nmsIoUThreshold | nmsScoreThreshold | maxDetections | detectionsPerClass
  | maxClassesPerDetection | numClasses | useRegularNms | outQuantized | base | shift | hasBias
  | useAxis | epsilon | beginNormAxis | elementwiseAffine | beginParamsAxis | depthRadius | bias
  | beta | normRegion | bidirectional | hiddenSize | numLayers | numDirections | dropout
  | zoneoutCell | zoneoutHidden | projSize | transposeA | transposeB | paddings | paddingMode
  | constantValue | channelShared | srcT | dstT | start | limit | delta | reduceToEnd | coeff
  | method | newHeight | newWidth | preserveAspectRatio | coordinateTransformMode | cubicCoeff
  | excludeOutside | extrapolationValue | nearestMode | axes | outputNum | sizeSplits | beginMask
  | endMask | ellipsisMask | newAxisMask | shrinkAxisMask | dims | sorted
  deriving DecidableEq, Repr

/-- A primitive of MindIR. Of its attributes only those of its kind mean anything. -/
structure MindIRPrimitive (ν : Type) where
  type : NodeType
  attr : Attribute → ν

/-- The accessor `MindIR_<kind>_Get<attribute>`. -/
structure Accessor where
  kind : NodeType
  attr : Attribute
  deriving DecidableEq

/-- A call of an accessor, which has a fixed answer for a primitive of another
kind. -/
def Accessor.get {ν : Type} (default : Accessor → ν) (a : Accessor) (p : MindIRPrimitive ν) :
    ν :=
  if p.type = a.kind then p.attr a.attr else default a

/-- A converter: the struct it marshals, and the assignments to its fields. -/
structure Converter where
  struct : NodeType
  fields : List (Attribute × Accessor)

namespace Converter

/-- The converter that takes the given fields from the accessors of its kind. -/
def own (kind : NodeType) (fields : List Attribute) : Converter where
  struct := kind
  fields := fields.map fun field => (field, ⟨kind, field⟩)

variable {ν : Type} (default : Accessor → ν)
  (marshal : NodeType → List (Attribute × ν) → List Int8)

/-- The struct a converter fills. -/
def fill (c : Converter) (p : MindIRPrimitive ν) : List (Attribute × ν) :=
  c.fields.map fun (field, accessor) => (field, accessor.get default p)

/-- A call of a converter; `none` is a null pointer. -/
def convert (c : Converter) : Option (MindIRPrimitive ν) → List Int8
  | none => []
  | some p => marshal c.struct (c.fill default p)

end Converter

/-! ## The converters -/

def convertActivation : Converter :=
  .own .activation [.activationType, .alpha, .minVal, .maxVal, .approximate]

/-- `ConvertAddFusion`, which asks the accessor of an activation. -/
def convertAddFusion : Converter :=
  ⟨.addFusion, [(.activationType, ⟨.activation, .activationType⟩)]⟩

def convertAll : Converter := .own .all [.keepDims]
def convertArgMaxFusion : Converter := .own .argMaxFusion [.axis, .topK, .keepDims, .outMaxValue]
def convertAssert : Converter := .own .assert [.summarize]
def convertAvgPoolFusion : Converter :=
  .own .avgPoolFusion
    [.kernelSize, .strides, .pad, .padMode, .roundMode, .format, .global, .activationType]
def convertBatchToSpaceND : Converter := .own .batchToSpaceND [.blockShape, .crops]
def convertBiasAdd : Converter := .own .biasAdd []
def convertBroadcastTo : Converter := .own .broadcastTo [.shape]
def convertCast : Converter := .own .cast []
def convertCeil : Converter := .own .ceil []
def convertClip : Converter := .own .clip [.max, .min]
def convertConcat : Converter := .own .concat [.axis]
def convertConv2DFusion : Converter :=
  .own .conv2DFusion
    [.kernelSize, .stride, .dilation, .padMode, .padList, .group, .inChannel, .outChannel,
     .activationType]
def convertConv2dTransposeFusion : Converter :=
  .own .conv2dTransposeFusion
    [.kernelSize, .stride, .dilation, .padMode, .padList, .group, .inChannel, .outChannel,
     .activationType, .outputPaddings]
def convertCos : Converter := .own .cos []
def convertConstantOfShape : Converter := .own .constantOfShape [.dataType, .value]
def convertCrop : Converter := .own .crop [.axis, .offset]
def convertDepthToSpace : Converter := .own .depthToSpace [.blockSize, .format, .mode]
def convertDetectionPostProcess : Converter :=
  .own .detectionPostProcess
    [.format, .inputSize, .scale, .nmsIoUThreshold, .nmsScoreThreshold, .maxDetections,
     .detectionsPerClass, .maxClassesPerDetection, .numClasses, .useRegularNms, .outQuantized]
def convertDivFusion : Converter := .own .divFusion [.activationType]
def convertEltwise : Converter := .own .eltwise [.mode]
def convertEqual : Converter := .own .equal []
def convertExpFusion : Converter := .own .expFusion [.base, .scale, .shift]
def convertExpandDims : Converter := .own .expandDims []
def convertFlatten : Converter := .own .flatten [.axis]
def convertFloor : Converter := .own .floor []
def convertFill : Converter := .own .fill []
def convertFullConnection : Converter :=
  .own .fullConnection [.hasBias, .useAxis, .axis, .activationType]
def convertFusedBatchNorm : Converter := .own .fusedBatchNorm [.epsilon]
def convertGather : Converter := .own .gather []
def convertGatherNd : Converter := .own .gatherNd []
def convertGreater : Converter := .own .greater []
def convertGreaterEqual : Converter := .own .greaterEqual []
def convertInstanceNorm : Converter := .own .instanceNorm [.epsilon]
def convertLayerNormFusion : Converter :=
  .own .layerNormFusion [.beginNormAxis, .epsilon, .elementwiseAffine, .beginParamsAxis]
def convertLess : Converter := .own .less []
def convertLessEqual : Converter := .own .lessEqual []
def convertLog : Converter := .own .log []
def convertLogicalAnd : Converter := .own .logicalAnd []
def convertLogicalNot : Converter := .own .logicalNot []
def convertLogicalOr : Converter := .own .logicalOr []
def convertLRN : Converter := .own .lrn [.depthRadius, .bias, .alpha, .beta, .normRegion]
def convertLSTM : Converter :=
  .own .lstm
    [.bidirectional, .hasBias, .inputSize, .hiddenSize, .numLayers, .numDirections, .dropout,
     .zoneoutCell, .zoneoutHidden, .projSize]
def convertL2NormalizeFusion : Converter :=
  .own .l2NormalizeFusion [.axis, .epsilon, .activationType]
def convertMatMulFusion : Converter :=
  .own .matMulFusion [.transposeA, .transposeB, .activationType]
def convertMaximum : Converter := .own .maximum []
def convertMaxPoolFusion : Converter :=
  .own .maxPoolFusion
    [.kernelSize, .strides, .pad, .padMode, .format, .roundMode, .global, .activationType]
def convertMinimum : Converter := .own .minimum []
def convertMod : Converter := .own .mod []
def convertMulFusion : Converter := .own .mulFusion [.activationType]
def convertNeg : Converter := .own .neg []
def convertNotEqual : Converter := .own .notEqual []
def convertOneHot : Converter := .own .oneHot [.axis]
def convertPadFusion : Converter := .own .padFusion [.paddings, .paddingMode, .constantValue]
def convertPowFusion : Converter := .own .powFusion [.scale, .shift]
def convertPReLUFusion : Converter := .own .pReLUFusion [.channelShared]
def convertQuantDTypeCast : Converter := .own .quantDTypeCast [.srcT, .dstT, .axis]
def convertRank : Converter := .own .rank []
def convertRange : Converter := .own .range [.dataType, .start, .limit, .delta]
def convertReciprocal : Converter := .own .reciprocal []
def convertReduceFusion : Converter := .own .reduceFusion [.keepDims, .mode, .reduceToEnd, .coeff]
def convertReshape : Converter := .own .reshape []
def convertResize : Converter :=
  .own .resize
    [.method, .newHeight, .newWidth, .preserveAspectRatio, .coordinateTransformMode, .cubicCoeff,
     .excludeOutside, .extrapolationValue, .nearestMode]
def convertRound : Converter := .own .round []
def convertRsqrt : Converter := .own .rsqrt []
def convertScaleFusion : Converter := .own .scaleFusion [.axis, .activationType]
def convertScatterNd : Converter := .own .scatterNd []
def convertShape : Converter := .own .shape []
def convertSin : Converter := .own .sin []
def convertSliceFusion : Converter := .own .sliceFusion [.axes]
def convertSoftmax : Converter := .own .softmax [.axis]
def convertSpaceToBatchND : Converter := .own .spaceToBatchND [.blockShape, .paddings]
def convertSpaceToDepth : Converter := .own .spaceToDepth [.format, .blockSize]
def convertSparseToDense : Converter := .own .sparseToDense []
def convertSplit : Converter := .own .split [.outputNum, .sizeSplits, .axis]
def convertSqrt : Converter := .own .sqrt []
def convertSquaredDifference : Converter := .own .squaredDifference []
def convertSqueeze : Converter := .own .squeeze [.axis]
def convertSquare : Converter := .own .square []
def convertStack : Converter := .own .stack [.axis]
def convertStridedSlice : Converter :=
  .own .stridedSlice [.beginMask, .endMask, .ellipsisMask, .newAxisMask, .shrinkAxisMask]
def convertSubFusion : Converter := .own .subFusion [.activationType]
def convertTileFusion : Converter := .own .tileFusion [.dims]
def convertTopKFusion : Converter := .own .topKFusion [.sorted, .axis]
def convertTranspose : Converter := .own .transpose []
def convertUnsqueeze : Converter := .own .unsqueeze [.axis]
def convertUnstack : Converter := .own .unstack [.axis]
def convertWhere : Converter := .own .«where» []
def convertSelect : Converter := .own .select []
def convertErf : Converter := .own .erf []
def convertLogSoftmax : Converter := .own .logSoftmax [.axis]

/-- `convertOpMap`. -/
def convertOpMap : NodeType → Converter
  | .activation => convertActivation
  | .addFusion => convertAddFusion
  | .all => convertAll
  | .argMaxFusion => convertArgMaxFusion
  | .assert => convertAssert
  | .avgPoolFusion => convertAvgPoolFusion
  | .batchToSpaceND => convertBatchToSpaceND
  | .biasAdd => convertBiasAdd
  | .broadcastTo => convertBroadcastTo
  | .cast => convertCast
  | .ceil => convertCeil
  | .clip => convertClip
  | .concat => convertConcat
  | .conv2DFusion => convertConv2DFusion
  | .conv2dTransposeFusion => convertConv2dTransposeFusion
  | .cos => convertCos
  | .constantOfShape => convertConstantOfShape
  | .crop => convertCrop
  | .depthToSpace => convertDepthToSpace
  | .detectionPostProcess => convertDetectionPostProcess
  | .divFusion => convertDivFusion
  | .eltwise => convertEltwise
  | .equal => convertEqual
  | .expFusion => convertExpFusion
  | .expandDims => convertExpandDims
  | .flatten => convertFlatten
  | .floor => convertFloor
  | .fill => convertFill
  | .fullConnection => convertFullConnection
  | .fusedBatchNorm => convertFusedBatchNorm
  | .gather => convertGather
  | .gatherNd => convertGatherNd
  | .greater => convertGreater
  | .greaterEqual => convertGreaterEqual
  | .instanceNorm => convertInstanceNorm
  | .layerNormFusion => convertLayerNormFusion
  | .less => convertLess
  | .lessEqual => convertLessEqual
  | .log => convertLog
  | .logicalAnd => convertLogicalAnd
  | .logicalNot => convertLogicalNot
  | .logicalOr => convertLogicalOr
  | .lrn => convertLRN
  | .lstm => convertLSTM
  | .l2NormalizeFusion => convertL2NormalizeFusion
  | .matMulFusion => convertMatMulFusion
  | .maximum => convertMaximum
  | .maxPoolFusion => convertMaxPoolFusion
  | .minimum => convertMinimum
  | .mod => convertMod
  | .mulFusion => convertMulFusion
  | .neg => convertNeg
  | .notEqual => convertNotEqual
  | .oneHot => convertOneHot
  | .padFusion => convertPadFusion
  | .powFusion => convertPowFusion
  | .pReLUFusion => convertPReLUFusion
  | .quantDTypeCast => convertQuantDTypeCast
  | .rank => convertRank
  | .range => convertRange
  | .reciprocal => convertReciprocal
  | .reduceFusion => convertReduceFusion
  | .reshape => convertReshape
  | .resize => convertResize
  | .round => convertRound
  | .rsqrt => convertRsqrt
  | .scaleFusion => convertScaleFusion
  | .scatterNd => convertScatterNd
  | .shape => convertShape
  | .sin => convertSin
  | .sliceFusion => convertSliceFusion
  | .softmax => convertSoftmax
  | .spaceToBatchND => convertSpaceToBatchND
  | .spaceToDepth => convertSpaceToDepth
  | .sparseToDense => convertSparseToDense
  | .split => convertSplit
  | .sqrt => convertSqrt
  | .squaredDifference => convertSquaredDifference
  | .squeeze => convertSqueeze
  | .square => convertSquare
  | .stack => convertStack
  | .stridedSlice => convertStridedSlice
  | .subFusion => convertSubFusion
  | .tileFusion => convertTileFusion
  | .topKFusion => convertTopKFusion
  | .transpose => convertTranspose
  | .unsqueeze => convertUnsqueeze
  | .unstack => convertUnstack
  | .«where» => convertWhere
  | .select => convertSelect
  | .erf => convertErf
  | .logSoftmax => convertLogSoftmax

/-- `Convert`; a type outside the map is `none`. -/
def convert {ν : Type} (default : Accessor → ν)
    (marshal : NodeType → List (Attribute × ν) → List Int8) (type : Option NodeType)
    (primitive : Option (MindIRPrimitive ν)) : List Int8 :=
  match type with
  | none => []
  | some type => (convertOpMap type).convert default marshal primitive

end NNRt
