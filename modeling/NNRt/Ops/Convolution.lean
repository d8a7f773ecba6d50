import NNRt.Ops.Setters

/-!
# Convolutions, pooling, full connection and layer normalisation

Builders that read the shapes of their inputs, and the two families they share
their setters with.
-/

namespace NNRt.Ops

/-- What a convolution takes from the shape of its weight: output channels,
kernel size, and the last dimension. -/
def weightShape (inputs : List Tensor) : Option (Int64 × List Int64 × Int64) :=
  match inputs with
  | _ :: weight :: _ =>
    match weight.dimensions with
    | [outChannel, height, width, inChannel] =>
      some (outChannel.toInt64, [height.toInt64, width.toInt64], inChannel.toInt64)
    | _ => none
  | _ => none

structure Conv2D where
  group : Int64 := 1
  inChannel : Int64 := 0
  outChannel : Int64 := 0
  kernelSize : List Int64 := []
  strides : List Int64 := []
  pad : List Int64 := []
  dilation : List Int64 := []
  padMode : PadMode := .pad
  activationType : ActivationType := .noActivation

namespace Conv2D

def setStrides : Setter Conv2D :=
  int64sSetter [.mark, .dataType .int64, .buffer] fun s strides => { s with strides := strides }

def setPad : Setter Conv2D :=
  padSetter [.mark, .buffer] (fun s padMode => { s with padMode := padMode })
    (fun s pad => { s with pad := pad })

def setDilation : Setter Conv2D :=
  int64sSetter [.mark, .dataType .int64, .buffer] fun s dilation => { s with dilation := dilation }

def setActavitation : Setter Conv2D :=
  activationSetter [.mark, .elementCount 1, .dataType .int8, .buffer]
    fun s activationType => { s with activationType := activationType }

def setGroup : Setter Conv2D :=
  int64Setter [.mark, .elementCount 1, .dataType .int64, .buffer]
    fun s group => { s with group := group }

/-- `SetChannel` and `SetKernelSize`. -/
def readWeight (s : Conv2D) (inputs : List Tensor) : Option Conv2D :=
  (weightShape inputs).map fun (outChannel, kernelSize, inChannel) =>
    { s with inChannel := inChannel, outChannel := outChannel, kernelSize := kernelSize }

end Conv2D

def conv2DBuilder : OpsBuilder Conv2D where
  opName := "Conv2D"
  init := {}
  checkIO := checkIOIndex 3 1
  paramNum := 6
  readInputs := Conv2D.readWeight
  paramMap :=
    [(.conv2dStrides, Conv2D.setStrides), (.conv2dPad, Conv2D.setPad),
      (.conv2dDilation, Conv2D.setDilation), (.conv2dPadMode, Conv2D.setPad),
      (.conv2dActivationType, Conv2D.setActavitation), (.conv2dGroup, Conv2D.setGroup)]
  setsQuantType := .late
  primitive s := .ok (some (.conv2DFusion s.kernelSize s.strides s.dilation s.padMode s.pad
    s.group s.inChannel s.outChannel s.activationType))

/-- The members of `Conv2DTransposeBuilder`: those of `Conv2DBuilder`, whose
setters it repeats, and one more. -/
structure Conv2DTranspose where
  conv : Conv2D := {}
  outputPaddings : List Int64 := []

/-- A setter of the convolution, used on the members they share. -/
def ofConv2D (setter : Setter Conv2D) : Setter Conv2DTranspose where
  checks := setter.checks
  store s t := do
    return (← setter.store s.conv t).map fun conv => { s with conv := conv }

def conv2DTransposeBuilder : OpsBuilder Conv2DTranspose where
  opName := "Conv2DTranspose"
  init := {}
  checkIO := checkIOIndex 3 1
  paramNum := 7
  readInputs s inputs := (s.conv.readWeight inputs).map fun conv => { s with conv := conv }
  paramMap :=
    [(.conv2dTransposeStrides, ofConv2D Conv2D.setStrides),
      (.conv2dTransposePad, ofConv2D Conv2D.setPad),
      (.conv2dTransposeDilation, ofConv2D Conv2D.setDilation),
      (.conv2dTransposeOutputPaddings, int64sSetter [.mark, .dataType .int64, .buffer]
        fun s paddings => { s with outputPaddings := paddings }),
      (.conv2dTransposePadMode, ofConv2D Conv2D.setPad),
      (.conv2dTransposeActivationType, ofConv2D Conv2D.setActavitation),
      (.conv2dTransposeGroup, ofConv2D Conv2D.setGroup)]
  setsQuantType := .late
  primitive s := .ok (some (.conv2dTransposeFusion s.conv.kernelSize s.conv.strides
    s.conv.dilation s.conv.padMode s.conv.pad s.conv.group s.conv.inChannel s.conv.outChannel
    s.conv.activationType s.outputPaddings))

/-- `DepthwiseConv2DNativeBuilder`, on the members of the convolution: the input
channels come from the input, and are the group too. -/
def depthwiseConv2DNativeBuilder : OpsBuilder Conv2D where
  opName := "DepthwiseConv2DNative"
  init := {}
  checkIO := checkIOIndex 3 1
  paramNum := 5
  readInputs s inputs :=
    match inputs.head?.map (·.dimensions) with
    | some [_, _, _, inChannel] =>
      (weightShape inputs).map fun (outChannel, kernelSize, _) =>
        { s with
          inChannel := inChannel.toInt64, outChannel := outChannel, kernelSize := kernelSize }
    | _ => none
  paramMap :=
    [(.depthwiseConv2dNativeStrides, Conv2D.setStrides),
      (.depthwiseConv2dNativePad, Conv2D.setPad),
      (.depthwiseConv2dNativeDilation, Conv2D.setDilation),
      (.depthwiseConv2dNativePadMode, Conv2D.setPad),
      (.depthwiseConv2dNativeActivationType, Conv2D.setActavitation)]
  setsQuantType := .late
  primitive s := .ok (some (.conv2DFusion s.kernelSize s.strides s.dilation s.padMode s.pad
    s.inChannel s.inChannel s.outChannel s.activationType))

/-! ## Pooling -/

/-- The members of `PoolingBuilder`. -/
structure Pooling where
  kernelSize : List Int64 := []
  pad : List Int64 := []
  strides : List Int64 := []
  padMode : PadMode := .pad
  activationType : ActivationType := .noActivation
  roundMode : RoundMode := .floor
  global : Bool := false

namespace Pooling

def setKernel : Setter Pooling :=
  int64sSetter [.mark, .dataType .int64, .buffer] fun s size => { s with kernelSize := size }

def setStrides : Setter Pooling :=
  int64sSetter [.mark, .dataType .int64, .buffer] fun s strides => { s with strides := strides }

def setPadModeOrPaddings : Setter Pooling :=
  padSetter [.mark, .buffer] (fun s padMode => { s with padMode := padMode })
    (fun s pad => { s with pad := pad })

/-- `roundList`. -/
def roundModes (key : Int32) : Option RoundMode :=
  [(0, RoundMode.floor), (1, .ceil)].lookup key

def setRoundMode : Setter Pooling :=
  storesDecoded [.mark, .elementCount 1, .dataType .int32, .buffer] Tensor.int32 roundModes
    fun s roundMode => { s with roundMode := roundMode }

def setActivation : Setter Pooling :=
  activationSetter [.mark, .elementCount 1, .dataType .int8, .buffer]
    fun s activationType => { s with activationType := activationType }

/-- `SetGlobal`, the one setter of the builder that does not mark its tensor. -/
def setGlobal : Setter Pooling :=
  boolSetter (scalarOf .bool) fun s global => { s with global := global }

end Pooling

/-- `PoolingBuilder`: either pooling takes the parameter types of both. -/
def pooling (opName : String) (primitive : Pooling → Primitive) : OpsBuilder Pooling where
  opName := opName
  init := {}
  checkIO := checkIOIndex 1 1
  paramNum := 7
  paramMap :=
    [(.maxPoolKernelSize, Pooling.setKernel), (.maxPoolStride, Pooling.setStrides),
      (.maxPoolPadMode, Pooling.setPadModeOrPaddings), (.maxPoolPad, Pooling.setPadModeOrPaddings),
      (.maxPoolActivationType, Pooling.setActivation), (.maxPoolRoundMode, Pooling.setRoundMode),
      (.maxPoolGlobal, Pooling.setGlobal), (.avgPoolKernelSize, Pooling.setKernel),
      (.avgPoolStride, Pooling.setStrides), (.avgPoolPadMode, Pooling.setPadModeOrPaddings),
      (.avgPoolPad, Pooling.setPadModeOrPaddings), (.avgPoolActivationType, Pooling.setActivation),
      (.avgPoolRoundMode, Pooling.setRoundMode), (.avgPoolGlobal, Pooling.setGlobal)]
  setsQuantType := .late
  primitive s := .ok (some (primitive s))

def avgPoolBuilder : OpsBuilder Pooling :=
  pooling "AvgPool" fun s => .avgPoolFusion s.kernelSize s.strides s.pad s.padMode s.roundMode .nchw
    s.global s.activationType

def maxPoolBuilder : OpsBuilder Pooling :=
  pooling "MaxPool" fun s => .maxPoolFusion s.kernelSize s.strides s.pad s.padMode .nchw s.global
    s.activationType

/-! ## Full connection -/

/-- The members of `FullConnectionBuilder`. -/
structure FullConnection where
  hasBias : Bool := false
  useAxis : Bool := false
  axis : Int64 := 0
  activationType : ActivationType := .noActivation
  axisIsSet : Bool := false
  useAxisIsSet : Bool := false

namespace FullConnection

def setHasBias : Setter FullConnection :=
  boolSetter (scalarOf .bool) fun s hasBias => { s with hasBias := hasBias }

def setUseAxis : Setter FullConnection where
  checks := scalarOf .bool
  store s t := do
    let useAxis ← t.bool
    if s.axisIsSet && !useAxis then return none
    return some { s with useAxis := useAxis, useAxisIsSet := true }

def setFullConnectionActivation : Setter FullConnection :=
  activationSetter [.mark, .elementCount 1, .dataType .int8, .buffer]
    fun s activationType => { s with activationType := activationType }

/-- `SetAxis`, which turns the use of the axis on. -/
def setAxis : Setter FullConnection where
  checks := [.mark, .elementCount 1, .dataType .int64, .buffer]
  store s t := do
    if s.useAxisIsSet && !s.useAxis then return none
    return some { s with axis := ← t.int64 0, axisIsSet := true, useAxis := true }

end FullConnection

/-- `FullConnectionBuilder`, which takes any number of inputs and does not check
the range of the output. -/
def fullConnectionBuilder : OpsBuilder FullConnection where
  opName := "FullConnection"
  init := {}
  checkIO inputs outputs tensors :=
    if outputs.length ≠ 1 then .invalidParameter
    else checkRange inputs [] tensors
  paramNum := 4
  paramMap :=
    [(.fullConnectionActivationtype, FullConnection.setFullConnectionActivation),
      (.fullConnectionHasBias, FullConnection.setHasBias),
      (.fullConnectionUseAxis, FullConnection.setUseAxis),
      (.fullConnectionAxis, FullConnection.setAxis)]
  setsQuantType := .late
  primitive s := .ok (some (.fullConnection s.hasBias s.useAxis s.axis s.activationType))

/-! ## Layer normalisation -/

structure LayerNorm where
  beginNormAxis : Int64 := 1
  epsilon : UInt32 := 0x33d6bf95
  elementwiseAffine : Bool := true
  beginParamsAxis : Int64 := 1

namespace LayerNorm

/-- The loop of `ValidateGammaAndBetaShape`, over the positions of the input
from the axis on. -/
def sameShape (input gamma beta : List Int32) (beginAxis : Nat) :
    List Nat → Except Fault ReturnCode
  | [] => .ok .success
  | i :: is =>
    match input[i]?, gamma[i - beginAxis]?, beta[i - beginAxis]? with
    | some d, some g, some b =>
      if g ≠ d ∨ b ≠ d then .ok .invalidParameter
      else sameShape input gamma beta beginAxis is
    | _, _, _ => .error .outOfBounds

/-- `ValidateGammaAndBetaShape` for an axis inside the rank of the input. -/
def validateGammaAndBetaShape (input gamma beta : List Int32) (beginAxis : Nat) :
    Except Fault ReturnCode :=
  if gamma.length ≠ input.length - beginAxis ∨ beta.length ≠ input.length - beginAxis then
    .ok .invalidParameter
  else sameShape input gamma beta beginAxis
    (List.range' beginAxis (input.length - beginAxis))

def checkShapes (s : LayerNorm) (inputs : List Tensor) : Except Fault ReturnCode :=
  match inputs with
  | [x, gamma, beta] =>
    if s.beginNormAxis.toInt ≥ x.dimensions.length ∨ s.beginNormAxis < 1 then
      .ok .invalidParameter
    else
      validateGammaAndBetaShape x.dimensions gamma.dimensions beta.dimensions
        s.beginNormAxis.toInt.toNat
  | _ => .error .outOfBounds

end LayerNorm

def layerNormBuilder : OpsBuilder LayerNorm where
  opName := "LayerNorm"
  init := {}
  checkIO := checkIOIndex 3 1
  paramNum := 3
  paramMap :=
    [(.layerNormBeginNormAxis, int64Setter [.mark, .dataType .int64, .scalar, .buffer]
        fun s axis => { s with beginNormAxis := axis }),
      (.layerNormEpsilon, floatSetter [.mark, .dataType .float32, .scalar, .buffer]
        fun s epsilon => { s with epsilon := epsilon }),
      (.layerNormBeginParamAxis, int64Setter [.mark, .dataType .int64, .scalar, .buffer]
        fun s axis => { s with beginParamsAxis := axis })]
  checkParams := LayerNorm.checkShapes
  setsQuantType := .late
  primitive s := .ok (some (.layerNormFusion s.beginNormAxis s.epsilon s.elementwiseAffine
    s.beginParamsAxis))

end NNRt.Ops
