import NNRt.Cache.Accepted
import NNRt.Compiler.NNCompiler

/-!
# Reading a cache and null pointers

A cache can be damaged in many ways, and reading it then returns an error,
throws or reads past the end of a buffer. It never dereferences a null pointer:
`restore_avoids` has this for the files, `deserializedTensorsFromMapped_avoids`
for the descriptions in them, which moreover never fail with the code of
success.
-/

namespace NNRt

/-- A null pointer is dereferenced. -/
def Fault.IsNull (fault : Fault) : Prop :=
  ∃ p, fault = .nullDeref p

/-- A null pointer, or an error code that is none. -/
def Stop.Spurious (stop : Stop) : Prop :=
  (∃ p, stop = .fault (.nullDeref p)) ∨ stop = .ret .success

@[simp] theorem Fault.not_isNull_outOfBounds : ¬ Fault.outOfBounds.IsNull := nofun

@[simp] theorem Fault.not_isNull_typeError : ¬ Fault.typeError.IsNull := nofun

@[simp] theorem Fault.not_isNull_lengthError : ¬ Fault.lengthError.IsNull := nofun

@[simp] theorem Fault.not_isNull_badAlloc : ¬ Fault.badAlloc.IsNull := nofun

@[simp] theorem Fault.not_isNull_badConversion : ¬ Fault.badConversion.IsNull := nofun

@[simp] theorem Stop.not_spurious_outOfBounds : ¬ (Stop.fault .outOfBounds).Spurious := by
  rintro (⟨p, h⟩ | h) <;> cases h

theorem Stop.not_spurious_ret {ret : ReturnCode} (hret : ret ≠ .success) :
    ¬ (Stop.ret ret).Spurious := by
  rintro (⟨p, h⟩ | h)
  · cases h
  · cases h
    exact hret rfl

/-! ## The descriptions -/

theorem readBytes_avoids (n : Nat) (buffer : Bytes) : Avoids Stop.Spurious (readBytes n buffer) := by
  unfold readBytes
  split <;> simp

theorem readU32At_avoids (buffer : Bytes) : Avoids Stop.Spurious (readU32At buffer) :=
  (readBytes_avoids 4 buffer).bind fun _ => avoids_ok _

theorem readShape_avoids (n : Nat) (buffer : Bytes) : Avoids Stop.Spurious (readShape n buffer) := by
  induction n generalizing buffer with
  | zero => exact avoids_ok _
  | succ n ih =>
    refine (readU32At_avoids buffer).bind fun dim => ?_
    exact (ih _).bind fun _ => avoids_ok _

theorem readName_avoids (buffer : Bytes) : Avoids Stop.Spurious (readName buffer) := by
  unfold readName
  split <;> simp

theorem readSerializedDesc_avoids (buffer : Bytes) :
    Avoids Stop.Spurious (readSerializedDesc buffer) := by
  refine (readU32At_avoids buffer).bind fun dataType => ?_
  refine (readU32At_avoids _).bind fun format => ?_
  refine (readU32At_avoids _).bind fun tensorType => ?_
  refine (readBytes_avoids 8 _).bind fun shapeNum => ?_
  dsimp only
  split
  · exact avoids_error.mpr (Stop.not_spurious_ret nofun)
  split
  · exact avoids_error.mpr (Stop.not_spurious_ret nofun)
  refine (readShape_avoids _ _).bind fun shape => ?_
  exact (readName_avoids _).bind fun _ => avoids_ok _

theorem readMappedDescs_avoids (behind fuel : Nat) (buffer : Bytes) :
    Avoids Stop.Spurious (readMappedDescs behind fuel buffer) := by
  induction fuel generalizing buffer with
  | zero => exact avoids_ok _
  | succ fuel ih =>
    rw [readMappedDescs]
    split
    · exact avoids_ok _
    · refine (readSerializedDesc_avoids _).bind fun desc => ?_
      exact (ih _).bind fun _ => avoids_ok _

theorem copyToTensorDesc_avoids (s : SerializedTensorDesc) :
    Avoids Stop.Spurious (copyToTensorDesc s) := by
  unfold copyToTensorDesc
  split
  · split
    · split
      · exact avoids_ok _
      · rename_i hret _
        exact avoids_error.mpr (Stop.not_spurious_ret hret)
    · rename_i hret _
      exact avoids_error.mpr (Stop.not_spurious_ret hret)
  · rename_i hret _
    exact avoids_error.mpr (Stop.not_spurious_ret hret)

theorem deserializedTensorsFromMapped_avoids (content : Bytes) :
    Avoids Stop.Spurious (deserializedTensorsFromMapped content) := by
  refine (readMappedDescs_avoids _ _ _).bind fun serialized => ?_
  exact avoids_mapM fun s _ => (copyToTensorDesc_avoids s).bind fun _ => avoids_ok _

end NNRt
