import NNRt.Ops.Plain
import NNRt.Ops.Scalars
import NNRt.Ops.Lists
import NNRt.Ops.Convolution

/-!
# `OpsRegistry`

Which builder belongs to which operation. Every operation type has one.
-/

namespace NNRt

/-- A builder class, whatever its members are. -/
structure RegisteredBuilder where
  {Members : Type}
  builder : OpsBuilder Members

/-- `GetOpsBuilder`. -/
def getOpsBuilder : OperationType → RegisteredBuilder
  | .add => ⟨Ops.addBuilder⟩
  | .avgPool => ⟨Ops.avgPoolBuilder⟩
  | .batchNorm => ⟨Ops.batchNormBuilder⟩
  | .batchToSpaceNd => ⟨Ops.batchToSpaceNDBuilder⟩
  | .biasAdd => ⟨Ops.biasAddBuilder⟩
  | .cast => ⟨Ops.castBuilder⟩
  | .concat => ⟨Ops.concatBuilder⟩
  | .conv2d => ⟨Ops.conv2DBuilder⟩
  | .conv2dTranspose => ⟨Ops.conv2DTransposeBuilder⟩
  | .depthwiseConv2dNative => ⟨Ops.depthwiseConv2DNativeBuilder⟩
  | .div => ⟨Ops.divBuilder⟩
  | .eltwise => ⟨Ops.eltwiseBuilder⟩
  | .expandDims => ⟨Ops.expandDimsBuilder⟩
  | .fill => ⟨Ops.fillBuilder⟩
  | .fullConnection => ⟨Ops.fullConnectionBuilder⟩
  | .gather => ⟨Ops.gatherBuilder⟩
  | .hswish => ⟨Ops.hswishBuilder⟩
  | .lessEqual => ⟨Ops.lessEqualBuilder⟩
  | .matmul => ⟨Ops.matmulBuilder⟩
  | .maximum => ⟨Ops.maximumBuilder⟩
  | .maxPool => ⟨Ops.maxPoolBuilder⟩
  | .mul => ⟨Ops.mulBuilder⟩
  | .oneHot => ⟨Ops.onehotBuilder⟩
  | .pad => ⟨Ops.padBuilder⟩
  | .pow => ⟨Ops.powBuilder⟩
  | .scale => ⟨Ops.scaleBuilder⟩
  | .shape => ⟨Ops.shapeBuilder⟩
  | .sigmoid => ⟨Ops.sigmoidBuilder⟩
  | .slice => ⟨Ops.sliceBuilder⟩
  | .softmax => ⟨Ops.softmaxBuilder⟩
  | .spaceToBatchNd => ⟨Ops.spaceToBatchNDBuilder⟩
  | .split => ⟨Ops.splitBuilder⟩
  | .sqrt => ⟨Ops.sqrtBuilder⟩
  | .squaredDifference => ⟨Ops.squaredDifferenceBuilder⟩
  | .squeeze => ⟨Ops.squeezeBuilder⟩
  | .stack => ⟨Ops.stackBuilder⟩
  | .stridedSlice => ⟨Ops.stridedSliceBuilder⟩
  | .sub => ⟨Ops.subBuilder⟩
  | .tanh => ⟨Ops.tanhBuilder⟩
  | .tile => ⟨Ops.tileBuilder⟩
  | .transpose => ⟨Ops.transposeBuilder⟩
  | .reduceMean => ⟨Ops.reduceMeanBuilder⟩
  | .resizeBilinear => ⟨Ops.resizeBilinearBuilder⟩
  | .rsqrt => ⟨Ops.rsqrtBuilder⟩
  | .reshape => ⟨Ops.reshapeBuilder⟩
  | .prelu => ⟨Ops.pReluBuilder⟩
  | .relu => ⟨Ops.reluBuilder⟩
  | .relu6 => ⟨Ops.relu6Builder⟩
  | .layerNorm => ⟨Ops.layerNormBuilder⟩
  | .reduceProd => ⟨Ops.reduceProdBuilder⟩
  | .reduceAll => ⟨Ops.reduceAllBuilder⟩
  | .quantDtypeCast => ⟨Ops.quantDTypeCastBuilder⟩
  | .topK => ⟨Ops.topKBuilder⟩
  | .argMax => ⟨Ops.argMaxBuilder⟩
  | .unsqueeze => ⟨Ops.unsqueezeBuilder⟩
  | .gelu => ⟨Ops.geluBuilder⟩
  | .unstack => ⟨Ops.unstackBuilder⟩
  | .abs => ⟨Ops.absBuilder⟩
  | .erf => ⟨Ops.erfBuilder⟩
  | .exp => ⟨Ops.expBuilder⟩
  | .less => ⟨Ops.lessBuilder⟩
  | .select => ⟨Ops.selectBuilder⟩
  | .square => ⟨Ops.squareBuilder⟩
  | .flatten => ⟨Ops.flattenBuilder⟩
  | .depthToSpace => ⟨Ops.depthToSpaceBuilder⟩
  | .range => ⟨Ops.rangeBuilder⟩
  | .instanceNorm => ⟨Ops.instanceNormBuilder⟩
  | .constantOfShape => ⟨Ops.constantOfShapeBuilder⟩
  | .broadcastTo => ⟨Ops.broadcastToBuilder⟩
  | .equal => ⟨Ops.equalBuilder⟩
  | .greater => ⟨Ops.greaterBuilder⟩
  | .notEqual => ⟨Ops.notEqualBuilder⟩
  | .greaterEqual => ⟨Ops.greaterEqualBuilder⟩
  | .leakyRelu => ⟨Ops.leakyReluBuilder⟩
  | .lstm => ⟨Ops.lstmBuilder⟩
  | .clip => ⟨Ops.clipBuilder⟩
  | .all => ⟨Ops.allBuilder⟩
  | .assert => ⟨Ops.assertBuilder⟩
  | .cos => ⟨Ops.cosBuilder⟩
  | .log => ⟨Ops.logBuilder⟩
  | .logicalAnd => ⟨Ops.logicalAndBuilder⟩
  | .logicalNot => ⟨Ops.logicalNotBuilder⟩
  | .mod => ⟨Ops.modBuilder⟩
  | .neg => ⟨Ops.negBuilder⟩
  | .reciprocal => ⟨Ops.reciprocalBuilder⟩
  | .sin => ⟨Ops.sinBuilder⟩
  | .«where» => ⟨Ops.whereBuilder⟩
  | .sparseToDense => ⟨Ops.sparseToDenseBuilder⟩
  | .logicalOr => ⟨Ops.logicalOrBuilder⟩
  | .ceil => ⟨Ops.ceilBuilder⟩
  | .crop => ⟨Ops.cropBuilder⟩
  | .detectionPostProcess => ⟨Ops.detectionPostProcessBuilder⟩
  | .floor => ⟨Ops.floorBuilder⟩
  | .l2Normalize => ⟨Ops.l2NormalizeBuilder⟩
  | .logSoftmax => ⟨Ops.logSoftmaxBuilder⟩
  | .lrn => ⟨Ops.lrnBuilder⟩
  | .minimum => ⟨Ops.minimumBuilder⟩
  | .rank => ⟨Ops.rankBuilder⟩
  | .reduceMax => ⟨Ops.reduceMaxBuilder⟩
  | .reduceMin => ⟨Ops.reduceMinBuilder⟩
  | .reduceSum => ⟨Ops.reduceSumBuilder⟩
  | .round => ⟨Ops.roundBuilder⟩
  | .scatterNd => ⟨Ops.scatterNDBuilder⟩
  | .spaceToDepth => ⟨Ops.spaceToDepthBuilder⟩
  | .swish => ⟨Ops.swishBuilder⟩
  | .reduceL2 => ⟨Ops.reduceL2Builder⟩
  | .hardSigmoid => ⟨Ops.hardSigmoidBuilder⟩
  | .gatherNd => ⟨Ops.gatherNDBuilder⟩

end NNRt
