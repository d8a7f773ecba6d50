import NNRt.Driver.Converters
import NNRt.Lib.LittleEndian

/-!
# Attributes on their way to the driver

`Convert` looks a converter up by the type of a node. A struct of the driver has
the attributes of a primitive as its fields, and is only seen as the bytes it is
marshalled to.

- `convertOpMap_eq`: every converter but one takes the attributes of its own kind.
- `convert_preserves_iff`: **the driver is given the attributes of a primitive**
  exactly if it is no `AddFusion`, or one whose activation type is what the
  accessor of an activation answers for it anyway.
-/

namespace NNRt

/-- The attributes of each kind of primitive: the arguments that MindIR creates one
from, and the rounding mode of a max pooling. -/
def NodeType.attributes : NodeType → List Attribute
  | .activation => [.activationType, .alpha, .minVal, .maxVal, .approximate]
  | .addFusion => [.activationType]
  | .all => [.keepDims]
  | .argMaxFusion => [.axis, .topK, .keepDims, .outMaxValue]
  | .assert => [.summarize]
  | .avgPoolFusion =>
    [.kernelSize, .strides, .pad, .padMode, .roundMode, .format, .global, .activationType]
  | .batchToSpaceND => [.blockShape, .crops]
  | .broadcastTo => [.shape]
  | .clip => [.max, .min]
  | .concat => [.axis]
  | .conv2DFusion =>
    [.kernelSize, .stride, .dilation, .padMode, .padList, .group, .inChannel, .outChannel,
     .activationType]
  | .conv2dTransposeFusion =>
    [.kernelSize, .stride, .dilation, .padMode, .padList, .group, .inChannel, .outChannel,
     .activationType, .outputPaddings]
  | .constantOfShape => [.dataType, .value]
  | .crop => [.axis, .offset]
  | .depthToSpace => [.blockSize, .format, .mode]
  | .detectionPostProcess =>
    [.format, .inputSize, .scale, .nmsIoUThreshold, .nmsScoreThreshold, .maxDetections,
     .detectionsPerClass, .maxClassesPerDetection, .numClasses, .useRegularNms, .outQuantized]
  | .divFusion => [.activationType]
  | .eltwise => [.mode]
  | .expFusion => [.base, .scale, .shift]
  | .flatten => [.axis]
  | .fullConnection => [.hasBias, .useAxis, .axis, .activationType]
  | .fusedBatchNorm => [.epsilon]
  | .instanceNorm => [.epsilon]
  | .layerNormFusion => [.beginNormAxis, .epsilon, .elementwiseAffine, .beginParamsAxis]
  | .lrn => [.depthRadius, .bias, .alpha, .beta, .normRegion]
  | .lstm =>
    [.bidirectional, .hasBias, .inputSize, .hiddenSize, .numLayers, .numDirections, .dropout,
     .zoneoutCell, .zoneoutHidden, .projSize]
  | .l2NormalizeFusion => [.axis, .epsilon, .activationType]
  | .matMulFusion => [.transposeA, .transposeB, .activationType]
  | .maxPoolFusion =>
    [.kernelSize, .strides, .pad, .padMode, .format, .roundMode, .global, .activationType]
  | .mulFusion => [.activationType]
  | .oneHot => [.axis]
  | .padFusion => [.paddings, .paddingMode, .constantValue]
  | .powFusion => [.scale, .shift]
  | .pReLUFusion => [.channelShared]
  | .quantDTypeCast => [.srcT, .dstT, .axis]
  | .range => [.dataType, .start, .limit, .delta]
  | .reduceFusion => [.keepDims, .mode, .reduceToEnd, .coeff]
  | .resize =>
    [.method, .newHeight, .newWidth, .preserveAspectRatio, .coordinateTransformMode, .cubicCoeff,
     .excludeOutside, .extrapolationValue, .nearestMode]
  | .scaleFusion => [.axis, .activationType]
  | .sliceFusion => [.axes]
  | .softmax => [.axis]
  | .spaceToBatchND => [.blockShape, .paddings]
  | .spaceToDepth => [.format, .blockSize]
  | .split => [.outputNum, .sizeSplits, .axis]
  | .squeeze => [.axis]
  | .stack => [.axis]
  | .stridedSlice => [.beginMask, .endMask, .ellipsisMask, .newAxisMask, .shrinkAxisMask]
  | .subFusion => [.activationType]
  | .tileFusion => [.dims]
  | .topKFusion => [.sorted, .axis]
  | .unsqueeze => [.axis]
  | .unstack => [.axis]
  | .logSoftmax => [.axis]
  | _ => []

/-- Every type has its own converter, and all but `ConvertAddFusion` read the
attributes of their kind. -/
theorem convertOpMap_eq {type : NodeType} (h : type ≠ .addFusion) :
    convertOpMap type = .own type type.attributes := by
  cases type <;> first | exact absurd rfl h | rfl

section

variable {ν : Type} {default : Accessor → ν}
  {marshal : NodeType → List (Attribute × ν) → List Int8}

/-- The bytes of a struct determine its fields. -/
def MarshalInjective (marshal : NodeType → List (Attribute × ν) → List Int8) : Prop :=
  ∀ type fields fields', fields.map Prod.fst = type.attributes →
    fields'.map Prod.fst = type.attributes → marshal type fields = marshal type fields' →
    fields = fields'

/-- The bytes are those of a struct whose fields are the attributes of the
primitive. -/
def Preserves (default : Accessor → ν) (marshal : NodeType → List (Attribute × ν) → List Int8)
    (p : MindIRPrimitive ν) : Prop :=
  ∃ fields, fields.map Prod.fst = p.type.attributes ∧
    convert default marshal (some p.type) (some p) = marshal p.type fields ∧
    ∀ field ∈ fields, field.2 = p.attr field.1

/-- A converter of its own kind fills in the primitive's attributes. -/
theorem fill_own (p : MindIRPrimitive ν) (fields : List Attribute) :
    (Converter.own p.type fields).fill default p =
      fields.map fun field => (field, p.attr field) := by
  unfold Converter.fill Converter.own Accessor.get
  rw [List.map_map]
  refine List.map_congr_left fun field _ => ?_
  show (field, if p.type = p.type then p.attr field else _) = (field, p.attr field)
  rw [if_pos rfl]

theorem preserves_of_own {p : MindIRPrimitive ν} (h : p.type ≠ .addFusion) :
    Preserves default marshal p := by
  refine ⟨p.type.attributes.map fun field => (field, p.attr field), ?_, ?_, ?_⟩
  · rw [List.map_map]
    exact List.map_id _
  · show (convertOpMap p.type).convert default marshal (some p) = _
    rw [convertOpMap_eq h]
    show marshal p.type ((Converter.own p.type p.type.attributes).fill default p) = _
    rw [fill_own]
  · intro field hfield
    obtain ⟨attr, -, rfl⟩ := List.mem_map.mp hfield
    rfl

/-- The struct of an `AddFusion` holds the answer of another accessor. -/
theorem convert_addFusion {p : MindIRPrimitive ν} (h : p.type = .addFusion) :
    convert default marshal (some p.type) (some p) =
      marshal p.type [(.activationType, default ⟨.activation, .activationType⟩)] := by
  obtain ⟨type, attr⟩ := p
  cases h
  rfl

/-- **Attributes reach the driver**, except for the activation type of an
`AddFusion`. -/
theorem convert_preserves_iff (hmarshal : MarshalInjective marshal) (p : MindIRPrimitive ν) :
    Preserves default marshal p ↔
      (p.type = .addFusion → p.attr .activationType = default ⟨.activation, .activationType⟩) := by
  by_cases h : p.type = .addFusion
  · -- The one field, and what the converter puts into it.
    have hnames : ∀ v : ν, ([(.activationType, v)] : List (Attribute × ν)).map Prod.fst =
        p.type.attributes := by
      intro v
      rw [h]
      rfl
    unfold Preserves
    rw [convert_addFusion h]
    constructor
    · rintro ⟨fields, hfieldNames, hbytes, hfields⟩ -
      have heq := hmarshal p.type _ _ (hnames _) hfieldNames hbytes
      rw [← heq] at hfields
      exact (hfields _ List.mem_cons_self).symm
    · intro heq
      refine ⟨_, hnames _, rfl, fun field hfield => ?_⟩
      rw [List.mem_singleton.mp hfield]
      exact (heq h).symm
  · exact iff_of_true (preserves_of_own h) fun heq => absurd heq h

end

/-! ## A marshaller -/

/-- A number of 32 bits in a parcel, which writes every value to 4 bytes. -/
def writeInt32 (value : UInt32) : List Int8 :=
  (LittleEndian.encode 4 value.toNat).map UInt8.toInt8

/-- The fields of a struct one after the other. -/
def writeFields (_ : NodeType) (fields : List (Attribute × UInt32)) : List Int8 :=
  fields.flatMap fun field => writeInt32 field.2

theorem toInt8_injective : Function.Injective UInt8.toInt8 :=
  Function.LeftInverse.injective (g := Int8.toUInt8) fun _ => rfl

theorem writeInt32_injective : Function.Injective writeInt32 := by
  intro v w h
  have hencode := List.map_injective_iff.mpr toInt8_injective h
  apply UInt32.toNat_inj.mp
  rw [← LittleEndian.decode_encode (w := 4) v.toNat_lt, hencode,
    LittleEndian.decode_encode (w := 4) w.toNat_lt]

theorem writeFields_injective : MarshalInjective writeFields := by
  intro type
  generalize type.attributes = names
  intro fields fields' hnames hnames' h
  induction names generalizing fields fields' with
  | nil => rw [List.map_eq_nil_iff.mp hnames, List.map_eq_nil_iff.mp hnames']
  | cons name names ih =>
    obtain ⟨⟨n, v⟩, rest, rfl, rfl, hrest⟩ := List.map_eq_cons_iff.mp hnames
    obtain ⟨⟨n', v'⟩, rest', rfl, hname, hrest'⟩ := List.map_eq_cons_iff.mp hnames'
    obtain ⟨hfirst, hlast⟩ := List.append_inj h (by simp [writeInt32])
    obtain rfl : n' = n := hname
    obtain rfl : v = v' := writeInt32_injective hfirst
    rw [ih rest rest' hrest hrest' hlast]

/-- An operation with a fused `RELU`, whose code is 1. -/
def fusedRelu (type : NodeType) : MindIRPrimitive UInt32 := ⟨type, fun _ => 1⟩

theorem convert_preserves_divFusion : Preserves (fun _ => 0) writeFields (fusedRelu .divFusion) :=
  (convert_preserves_iff writeFields_injective _).mpr nofun

/-- The fused activation of an addition does not reach the driver. -/
theorem addFusion_loses_activation :
    ¬ Preserves (fun _ => 0) writeFields (fusedRelu .addFusion) := by
  rintro ⟨fields, hnames, hbytes, hfields⟩
  obtain ⟨⟨n, v⟩, rest, rfl, hname, hrest⟩ := List.map_eq_cons_iff.mp hnames
  have hv : v = 1 := hfields _ List.mem_cons_self
  rw [List.map_eq_nil_iff.mp hrest] at hbytes
  subst hv
  have hlost : writeInt32 0 = writeInt32 1 := List.append_cancel_right hbytes
  exact absurd hlost (by decide)

end NNRt
