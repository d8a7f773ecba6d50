import NNRt.Ops.Setters

/-!
# Builders without parameters

`Build` checks the numbers and the ranges of the indices, and `GetPrimitive`
has nothing but constants to pass on.
-/

namespace NNRt.Ops

/-- A builder without parameters. -/
def plain (opName : String) (inputNum outputNum : Nat) (setsQuantType : QuantTypeCall)
    (primitive : Primitive) : OpsBuilder Unit where
  opName := opName
  init := ()
  checkIO := checkIOIndex inputNum outputNum
  setsQuantType := setsQuantType
  primitive _ := .ok (some primitive)

/-- An activation whose numbers are all zero. -/
def activation (activationType : ActivationType) : Primitive :=
  .activation activationType 0 0 0 false

def absBuilder : OpsBuilder Unit := plain "Abs" 1 1 .never (activation .abs)
def biasAddBuilder : OpsBuilder Unit := plain "BiasAdd" 2 1 .late .biasAdd
def ceilBuilder : OpsBuilder Unit := plain "Ceil" 1 1 .never .ceil
def cosBuilder : OpsBuilder Unit := plain "Cos" 1 1 .never .cos
def equalBuilder : OpsBuilder Unit := plain "Equal" 2 1 .never .equal
def erfBuilder : OpsBuilder Unit := plain "Erf" 1 1 .never .erf
def expandDimsBuilder : OpsBuilder Unit := plain "ExpandDims" 2 1 .never .expandDims
def fillBuilder : OpsBuilder Unit := plain "Fill" 2 1 .late .fill
def floorBuilder : OpsBuilder Unit := plain "Floor" 1 1 .never .floor
def gatherBuilder : OpsBuilder Unit := plain "Gather" 3 1 .late .gather
def gatherNDBuilder : OpsBuilder Unit := plain "GatherND" 2 1 .late .gatherNd
def greaterBuilder : OpsBuilder Unit := plain "Greater" 2 1 .never .greater
def greaterEqualBuilder : OpsBuilder Unit := plain "GreaterEqual" 2 1 .late .greaterEqual
def hardSigmoidBuilder : OpsBuilder Unit := plain "HardSigmoid" 1 1 .late (activation .hsigmoid)
def hswishBuilder : OpsBuilder Unit := plain "Hswish" 1 1 .late (activation .hswish)
def lessBuilder : OpsBuilder Unit := plain "Less" 2 1 .never .less
def lessEqualBuilder : OpsBuilder Unit := plain "LessEqual" 2 1 .late .lessEqual
def logBuilder : OpsBuilder Unit := plain "Log" 1 1 .never .log
def logicalAndBuilder : OpsBuilder Unit := plain "LogicalAnd" 2 1 .never .logicalAnd
def logicalNotBuilder : OpsBuilder Unit := plain "LogicalNot" 1 1 .never .logicalNot
def logicalOrBuilder : OpsBuilder Unit := plain "LogicalOr" 2 1 .never .logicalOr
def maximumBuilder : OpsBuilder Unit := plain "Maximum" 2 1 .never .maximum
def minimumBuilder : OpsBuilder Unit := plain "Minimum" 2 1 .never .minimum
def modBuilder : OpsBuilder Unit := plain "Mod" 2 1 .never .mod
def negBuilder : OpsBuilder Unit := plain "Neg" 1 1 .never .neg
def notEqualBuilder : OpsBuilder Unit := plain "NotEqual" 2 1 .never .notEqual
def pReluBuilder : OpsBuilder Unit := plain "PRelu" 2 1 .never (.pReLUFusion false)
def rankBuilder : OpsBuilder Unit := plain "Rank" 1 1 .never .rank
def reciprocalBuilder : OpsBuilder Unit := plain "Reciprocal" 1 1 .never .reciprocal
def relu6Builder : OpsBuilder Unit := plain "Relu6" 1 1 .late (activation .relu6)
def reluBuilder : OpsBuilder Unit := plain "Relu" 1 1 .late (activation .relu)
def reshapeBuilder : OpsBuilder Unit := plain "Reshape" 2 1 .late .reshape
def roundBuilder : OpsBuilder Unit := plain "Round" 1 1 .never .round
def rsqrtBuilder : OpsBuilder Unit := plain "Rsqrt" 1 1 .late .rsqrt
def scatterNDBuilder : OpsBuilder Unit := plain "ScatterND" 3 1 .never .scatterNd
def selectBuilder : OpsBuilder Unit := plain "Select" 3 1 .never .select
def shapeBuilder : OpsBuilder Unit := plain "Shape" 1 1 .never .shape
def sigmoidBuilder : OpsBuilder Unit := plain "Sigmoid" 1 1 .late (activation .sigmoid)
def sinBuilder : OpsBuilder Unit := plain "Sin" 1 1 .never .sin
def sparseToDenseBuilder : OpsBuilder Unit := plain "SparseToDense" 3 1 .never .sparseToDense
def sqrtBuilder : OpsBuilder Unit := plain "Sqrt" 1 1 .late .sqrt
def squareBuilder : OpsBuilder Unit := plain "Square" 1 1 .never .square
def squaredDifferenceBuilder : OpsBuilder Unit :=
  plain "SquaredDifference" 2 1 .never .squaredDifference
def swishBuilder : OpsBuilder Unit := plain "Swish" 1 1 .never (activation .swish)
def tanhBuilder : OpsBuilder Unit := plain "Tanh" 1 1 .late (activation .tanh)
def transposeBuilder : OpsBuilder Unit := plain "Transpose" 2 1 .never .transpose
def whereBuilder : OpsBuilder Unit := plain "Where" 3 1 .never .«where»

/-- `CastBuilder`: the second input holds the code of a data type. -/
def castBuilder : OpsBuilder Unit where
  opName := "Cast"
  init := ()
  checkIO := checkIOIndex 2 1
  checkParams _ inputs :=
    match inputs with
    | [_, castType] =>
      if castType.buffer.isNone then .ok .invalidParameter
      else do
        let code ← castType.number 4 0
        if (DataType.ofCode? (UInt32.ofNat code)).isNone then return .invalidParameter
        return .success
    | _ => .error .outOfBounds
  setsQuantType := .late
  primitive _ := .ok (some .cast)

end NNRt.Ops
