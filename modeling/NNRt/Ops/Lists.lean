import NNRt.Ops.Setters

/-!
# Builders with list parameters

Some setters replace the list they fill and some append to it, so that a second
parameter tensor of the same type counts differently.
-/

namespace NNRt.Ops

/-- A list of four numbers as two rows. -/
def twoRows : List Int64 → List (List Int64)
  | [a, b, c, d] => [[a, b], [c, d]]
  | _ => []

structure BatchToSpaceND where
  blockSize : List Int64 := []
  crops : List (List Int64) := []

/-- `BatchToSpaceNDBuilder`. `SetInputCrops` reads four numbers, however many
elements the tensor has. -/
def batchToSpaceNDBuilder : OpsBuilder BatchToSpaceND where
  opName := "BatchToSpaceND"
  init := {}
  checkIO := checkIOIndex 1 1
  paramNum := 2
  paramMap :=
    [(.batchToSpaceNdBlocksize, int64sSetter [.mark, .dataType .int64, .buffer]
        fun s block => { s with blockSize := s.blockSize ++ block }),
      (.batchToSpaceNdCrops, stores [.mark, .dataType .int64, .buffer] (·.int64s 4)
        fun s crops => { s with crops := twoRows crops })]
  setsQuantType := .late
  primitive s := .ok (some (.batchToSpaceND s.blockSize s.crops))

def broadcastToBuilder : OpsBuilder (List Int64) where
  opName := "BroadcastTo"
  init := []
  checkIO := checkIOIndex 1 1
  paramNum := 1
  marksParams := true
  paramMap := [(.broadcastToShape, int64sSetter [.dataType .int64, .buffer] fun _ shape => shape)]
  primitive shape := .ok (some (.broadcastTo shape))

structure ConstantOfShape where
  dataType : Int64 := 0
  value : List UInt32 := []

def constantOfShapeBuilder : OpsBuilder ConstantOfShape where
  opName := "ConstantOfShape"
  init := {}
  checkIO := checkIOIndex 1 1
  paramNum := 2
  marksParams := true
  paramMap :=
    [(.constantOfShapeDataType, int64Setter (scalarOf .int64)
        fun s dataType => { s with dataType := dataType }),
      (.constantOfShapeValue, stores [.dataType .float32, .buffer] Tensor.allFloat
        fun s value => { s with value := value })]
  primitive s := .ok (some (.constantOfShape s.dataType s.value))

structure Crop where
  axis : Int64 := 0
  offset : List Int64 := []

def cropBuilder : OpsBuilder Crop where
  opName := "Crop"
  init := {}
  checkIO := checkIOIndex 2 1
  paramNum := 2
  marksParams := true
  paramMap :=
    [(.cropAxis, int64Setter (scalarOf .int64) fun s axis => { s with axis := axis }),
      (.cropOffset, int64sSetter [.dataType .int64, .buffer]
        fun s offset => { s with offset := offset })]
  primitive s := .ok (some (.crop s.axis s.offset))

structure DetectionPostProcess where
  inputSize : Int64 := 0
  scale : List UInt32 := []
  nmsIoUThreshold : UInt32 := 0
  nmsScoreThreshold : UInt32 := 0
  maxDetections : Int64 := 0
  detectionsPerClass : Int64 := 0
  maxClassesPerDetection : Int64 := 0
  numClasses : Int64 := 0
  useRegularNms : Bool := false
  outQuantized : Bool := false

def detectionPostProcessBuilder : OpsBuilder DetectionPostProcess where
  opName := "DetectionPostProcess"
  init := {}
  checkIO := checkIOIndex 3 4
  paramNum := 10
  marksParams := true
  paramMap :=
    [(.detectionPostProcessInputSize, int64Setter (scalarOf .int64)
        fun s size => { s with inputSize := size }),
      (.detectionPostProcessScale, stores [.dataType .float32, .buffer] Tensor.allFloat
        fun s scale => { s with scale := scale }),
      (.detectionPostProcessNmsIouThreshold, floatSetter (scalarOf .float32)
        fun s threshold => { s with nmsIoUThreshold := threshold }),
      (.detectionPostProcessNmsScoreThreshold, floatSetter (scalarOf .float32)
        fun s threshold => { s with nmsScoreThreshold := threshold }),
      (.detectionPostProcessMaxDetections, int64Setter (scalarOf .int64)
        fun s max => { s with maxDetections := max }),
      (.detectionPostProcessDetectionsPerClass, int64Setter (scalarOf .int64)
        fun s detections => { s with detectionsPerClass := detections }),
      (.detectionPostProcessMaxClassesPerDetection, int64Setter (scalarOf .int64)
        fun s max => { s with maxClassesPerDetection := max }),
      (.detectionPostProcessNumClasses, int64Setter (scalarOf .int64)
        fun s num => { s with numClasses := num }),
      (.detectionPostProcessUseRegularNms, boolSetter (scalarOf .bool)
        fun s useRegularNms => { s with useRegularNms := useRegularNms }),
      (.detectionPostProcessOutQuantized, boolSetter (scalarOf .bool)
        fun s outQuantized => { s with outQuantized := outQuantized })]
  primitive s := .ok (some (.detectionPostProcess .nchw s.inputSize s.scale s.nmsIoUThreshold
    s.nmsScoreThreshold s.maxDetections s.detectionsPerClass s.maxClassesPerDetection
    s.numClasses s.useRegularNms s.outQuantized))

structure L2Normalize where
  axis : List Int64 := []
  epsilon : UInt32 := 0x358637bd
  activationType : ActivationType := .noActivation

def l2NormalizeBuilder : OpsBuilder L2Normalize where
  opName := "L2Normalize"
  init := {}
  checkIO := checkIOIndex 1 1
  paramNum := 3
  marksParams := true
  paramMap :=
    [(.l2NormalizeActivationType, activationSetter (scalarOf .int8)
        fun s activationType => { s with activationType := activationType }),
      (.l2NormalizeEpsilon, floatSetter (scalarOf .float32)
        fun s epsilon => { s with epsilon := epsilon }),
      (.l2NormalizeAxis, int64sSetter [.dataType .int64, .buffer]
        fun s axis => { s with axis := axis })]
  primitive s := .ok (some (.l2NormalizeFusion s.axis s.epsilon s.activationType))

def sliceBuilder : OpsBuilder (List Int64) where
  opName := "Slice"
  init := []
  checkIO := checkIOIndex 3 1
  paramNum := 1
  marksParams := true
  paramMap := [(.sliceAxes, int64sSetter [.dataType .int64, .buffer] fun _ axes => axes)]
  setsQuantType := .late
  primitive axes := .ok (some (.sliceFusion axes))

def softmaxBuilder : OpsBuilder (List Int64) where
  opName := "Softmax"
  init := []
  checkIO := checkIOIndex 1 1
  paramNum := 1
  marksParams := true
  paramMap := [(.softmaxAxis, int64Setter (scalarOf .int64) fun _ axis => [axis])]
  setsQuantType := .late
  primitive axis := .ok (some (.softmax axis))

structure SpaceToBatchND where
  blockShape : List Int64 := []
  paddings : List (List Int64) := []

/-- `SpaceToBatchNDBuilder`. The inner loop of `SetPadData` starts again at the
first number for the second row. -/
def spaceToBatchNDBuilder : OpsBuilder SpaceToBatchND where
  opName := "SpaceToBatchND"
  init := {}
  checkIO := checkIOIndex 1 1
  paramNum := 2
  marksParams := true
  paramMap :=
    [(.spaceToBatchNdBlockShape,
        int64sSetter [.dataType .int64, .rank 1, .elementCount 2, .buffer]
          fun s block => { s with blockShape := s.blockShape ++ block }),
      (.spaceToBatchNdPaddings,
        stores [.dataType .int64, .rank 2, .elementCount 4, .buffer] (·.int64s 2)
          fun s row => { s with paddings := [row, row] })]
  setsQuantType := .late
  primitive s := .ok (some (.spaceToBatchND s.blockShape s.paddings))

structure Split where
  outputNum : Int64 := 0
  sizeSplits : List Int64 := []
  axis : Int64 := 0

/-- `SplitBuilder`. Two of its setters read the buffer without looking whether
there is one. -/
def splitBuilder : OpsBuilder Split where
  opName := "Split"
  init := {}
  checkIO inputs outputs tensors :=
    if inputs.length ≠ 1 then .invalidParameter
    else checkRange inputs outputs tensors
  paramNum := 3
  marksParams := true
  paramMap :=
    [(.splitAxis, int64Setter (scalarOf .int64) fun s axis => { s with axis := axis }),
      (.splitOutputNum, int64Setter [.dataType .int64, .elementCount 1]
        fun s outputNum => { s with outputNum := outputNum }),
      (.splitSizeSplits, int64sSetter [.dataType .int64]
        fun s sizes => { s with sizeSplits := s.sizeSplits ++ sizes })]
  setsQuantType := .early
  primitive s := .ok (some (.split s.outputNum s.sizeSplits s.axis))

def squeezeBuilder : OpsBuilder (List Int64) where
  opName := "Squeeze"
  init := []
  checkIO := checkIOIndex 1 1
  paramNum := 1
  marksParams := true
  paramMap := [(.squeezeAxis, int64sSetter [.dataType .int64, .buffer] fun s axis => s ++ axis)]
  setsQuantType := .late
  primitive axis := .ok (some (.squeeze axis))

def tileBuilder : OpsBuilder (List Int64) where
  opName := "Tile"
  init := [0]
  checkIO := checkIOIndex 2 1
  paramNum := 1
  marksParams := true
  paramMap := [(.tileDims, int64sSetter [.dataType .int64, .buffer] fun _ dims => dims)]
  primitive dims := .ok (some (.tileFusion dims))

def unsqueezeBuilder : OpsBuilder (List Int64) where
  opName := "Unsqueeze"
  init := []
  checkIO := checkIOIndex 1 1
  paramNum := 1
  marksParams := true
  paramMap := [(.unsqueezeAxis, int64Setter (scalarOf .int64) fun _ axis => [axis])]
  setsQuantType := .late
  primitive axis := .ok (some (.unsqueeze axis))

end NNRt.Ops
