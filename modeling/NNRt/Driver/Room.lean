import NNRt.Core.Descriptions
import NNRt.Driver.TensorData

/-!
# Room for every element

`CreateData` and `CheckTensorData` compare the size of a buffer with `GetByteSize`, a
product in `size_t` that nothing keeps from wrapping around.

- `RoomFor`: a range of that many bytes, behind the offset of a tensor.
- `createData_room`, `createDataOfSize_room`, `createDataFromFd_room`: data that is
  created has room for the byte size.
- `guaranteesRoom_iff`: **the checks guarantee room for every element exactly if the
  elements of the description take less than `2 ^ 64` bytes.**
-/

namespace NNRt

namespace TensorDesc

/-- What all elements take, if every dimension is known. -/
def elementBytes (desc : TensorDesc) : Int :=
  (desc.shape.map Int32.toInt).prod * desc.dataType.typeSize.toNat

end TensorDesc

namespace UserTensor

/-- The data behind the offset has room for so many bytes. -/
def RoomFor (t : UserTensor) (bytes : Int) : Prop :=
  t.offset.toNat + bytes ≤ t.size.toNat

/-- One of the forms of `CreateData` succeeds. -/
inductive Creates (t : UserTensor) (env : TensorEnv) (t' : UserTensor) : Prop
  | own (h : t.createData env = (.success, t'))
  | ofSize (size : UInt64) (h : t.createDataOfSize env size = (.success, t'))
  | fromFd (fd : Int32) (size offset : UInt64)
    (h : t.createDataFromFd env fd size offset = (.success, t'))

section Room

variable {t t' : UserTensor} {env : TensorEnv}

/-- Memory of the device is as long as it was asked for. -/
theorem createOwnData_success {length : UInt64} (hnew : t.data = none)
    (h : t.createOwnData env length = (.success, t')) : t'.size = length ∧ t'.offset = 0 := by
  have heffect := allocateMemory_effect hnew env length
  unfold createOwnData at h
  split at h
  · rename_i t₁ ht₁
    rw [ht₁] at heffect
    cases h
    rcases heffect with ⟨hret, -⟩ | ⟨-, address, rfl⟩
    · exact absurd rfl hret
    · exact ⟨rfl, rfl⟩
  · rename_i hret _
    exact absurd h (code_ne hret)

theorem createData_room (h : t.createData env = (.success, t')) :
    ∃ desc byteSize, t.tensorDesc = some desc ∧ desc.getByteSize = (.success, byteSize) ∧
      t'.RoomFor byteSize.toNat := by
  unfold createData at h
  split at h
  · cases h
  rename_i hdata
  split at h
  · cases h
  rename_i desc hdesc
  split at h
  · rename_i byteSize hbytes
    split at h
    · cases h
    obtain ⟨hsize, hoffset⟩ :=
      createOwnData_success (Option.not_isSome_iff_eq_none.mp hdata) h
    refine ⟨desc, byteSize, hdesc, hbytes, ?_⟩
    unfold RoomFor
    rw [hsize, hoffset]
    exact (Int.zero_add _).le
  · rename_i hret _
    exact absurd h (code_ne hret)

theorem createDataOfSize_room {size : UInt64} (h : t.createDataOfSize env size = (.success, t')) :
    ∃ desc byteSize, t.tensorDesc = some desc ∧ desc.getByteSize = (.success, byteSize) ∧
      t'.RoomFor byteSize.toNat := by
  unfold createDataOfSize at h
  split at h
  · cases h
  rename_i hdata
  split at h
  · cases h
  rename_i desc hdesc
  split at h
  · cases h
  split at h
  · rename_i byteSize hbytes
    split at h
    · cases h
    rename_i hroom
    obtain ⟨hsize, hoffset⟩ :=
      createOwnData_success (Option.not_isSome_iff_eq_none.mp hdata) h
    have hle : byteSize.toNat ≤ size.toNat := UInt64.le_iff_toNat_le.mp (UInt64.not_lt.mp hroom)
    refine ⟨desc, byteSize, hdesc, hbytes, ?_⟩
    unfold RoomFor
    rw [hsize, hoffset, show UInt64.toNat 0 = 0 from rfl]
    omega
  · rename_i hret _
    exact absurd h (code_ne hret)

/-- The difference of the sizes, where it does not wrap around. -/
theorem roomFor_of_le_sub {byteSize : UInt64} (hoffset : t.offset ≤ t.size)
    (h : byteSize ≤ t.size - t.offset) : t.RoomFor byteSize.toNat := by
  have hroom := UInt64.le_iff_toNat_le.mp h
  rw [UInt64.toNat_sub_of_le _ _ hoffset] at hroom
  have hle := UInt64.le_iff_toNat_le.mp hoffset
  unfold RoomFor
  omega

theorem createDataFromFd_room {fd : Int32} {size offset : UInt64}
    (h : t.createDataFromFd env fd size offset = (.success, t')) :
    ∃ desc byteSize, t.tensorDesc = some desc ∧ desc.getByteSize = (.success, byteSize) ∧
      t'.RoomFor byteSize.toNat := by
  unfold createDataFromFd at h
  split at h
  · cases h
  split at h
  · cases h
  rename_i desc hdesc
  split at h
  · rename_i byteSize hbytes
    split at h
    · cases h
    split at h
    · cases h
    split at h
    · cases h
    rename_i hoffset
    split at h
    · cases h
    rename_i hroom
    split at h
    · cases h
    cases h
    refine ⟨desc, byteSize, hdesc, hbytes, ?_⟩
    exact roomFor_of_le_sub (UInt64.not_lt.mp hoffset) (UInt64.not_lt.mp hroom)
  · rename_i hret _
    exact absurd h (code_ne hret)

/-- **Created data** has room for the byte size of the description. -/
theorem Creates.room (h : t.Creates env t') :
    ∃ desc byteSize, t.tensorDesc = some desc ∧ desc.getByteSize = (.success, byteSize) ∧
      t'.RoomFor byteSize.toNat := by
  cases h with
  | own h => exact createData_room h
  | ofSize size h => exact createDataOfSize_room h
  | fromFd fd size offset h => exact createDataFromFd_room h

/-- The offset of a tensor never lies behind its end. -/
theorem offset_le_size {calls : List Call} (h : Run.exec step {} calls = .ok t) :
    t.offset ≤ t.size := by
  refine Run.exec_invariant (P := fun t : UserTensor => t.offset ≤ t.size)
    (fun u call u' hle hstep => ?_) (UInt64.le_refl _) h
  cases newData hstep with
  | same _ _ _ _ hsize hoffset => rwa [hsize, hoffset]
  | allocated _ _ _ _ _ _ hoffset =>
    rw [hoffset]
    exact UInt64.zero_le
  | fromFd _ _ _ _ _ haccepts _ hsize hoffset =>
    rw [hsize, hoffset]
    exact haccepts.offset_le

theorem checkTensorData_room {calls : List Call} (h : Run.exec step {} calls = .ok t)
    (hcheck : t.checkTensorData = true) :
    ∃ desc byteSize, t.tensorDesc = some desc ∧ desc.getByteSize = (.success, byteSize) ∧
      t.RoomFor byteSize.toNat := by
  unfold checkTensorData at hcheck
  split at hcheck
  · cases hcheck
  rename_i desc hdesc
  split at hcheck
  · rename_i byteSize hbytes
    split at hcheck
    · cases hcheck
    rename_i hroom
    exact ⟨desc, byteSize, hdesc, hbytes,
      roomFor_of_le_sub (offset_le_size h) (UInt64.not_lt.mp hroom)⟩
  · cases hcheck

end Room

end UserTensor

namespace TensorDesc

/-- The byte size is what the elements take, so that data which is created, and data
which passes the check, has room for all of them. -/
structure GuaranteesRoom (desc : TensorDesc) : Prop where
  exact : ∀ byteSize, desc.getByteSize = (.success, byteSize) →
    (byteSize.toNat : Int) = desc.elementBytes
  created : ∀ (t t' : UserTensor) (env : TensorEnv), t.tensorDesc = some desc →
    t.Creates env t' → t'.RoomFor desc.elementBytes
  checked : ∀ (t : UserTensor) (calls : List UserTensor.Call),
    Run.exec UserTensor.step {} calls = .ok t → t.tensorDesc = some desc →
      t.checkTensorData = true → t.RoomFor desc.elementBytes

theorem elementBytes_eq {desc : TensorDesc} (h : AllPositive desc.shape) :
    desc.elementBytes =
      (NNTensor.dimsProduct desc.shape * desc.dataType.typeSize.toNat : Nat) := by
  have hvalid : NNTensor.DimsValid desc.shape := fun dim hdim => Or.inr (h dim hdim)
  rw [elementBytes, ← NNTensor.dimsProduct_eq_prod hvalid ((NNTensor.allPositive_iff hvalid).mp h),
    Int.natCast_mul]

/-- **When the checks guarantee room**, for a description whose dimensions are all known:
when its elements take less than `2 ^ 64` bytes. -/
theorem guaranteesRoom_iff (desc : TensorDesc) :
    (AllPositive desc.shape → desc.GuaranteesRoom) ↔
      (AllPositive desc.shape → desc.elementBytes < 2 ^ 64) := by
  refine forall_congr' fun hpos => ?_
  have hbytes := desc.getByteSize_eq
  rw [if_neg (not_not.mpr hpos)] at hbytes
  have helements := elementBytes_eq hpos
  have hsmall := (NNTensor.typeSize_toNat_le desc.dataType).2
  constructor
  · -- The byte size is below `2 ^ 64`, so it is exact only for elements that are.
    intro hroom
    by_cases hempty : desc.shape = []
    · rw [hempty, NNTensor.dimsProduct_nil] at helements
      omega
    rw [if_neg hempty] at hbytes
    by_cases hsize : desc.dataType.typeSize = 0
    · rw [hsize, show UInt32.toNat 0 = 0 from rfl, Nat.mul_zero] at helements
      omega
    · rw [if_neg hsize] at hbytes
      have hexact := hroom.exact _ hbytes
      have hlt := (UInt64.ofNat
        (NNTensor.dimsProduct desc.shape * desc.dataType.typeSize.toNat)).toNat_lt
      omega
  · intro hlt
    have hexact : ∀ byteSize, desc.getByteSize = (.success, byteSize) →
        (byteSize.toNat : Int) = desc.elementBytes := by
      intro byteSize hsuccess
      rw [hbytes] at hsuccess
      split at hsuccess
      · cases hsuccess
      split at hsuccess
      · cases hsuccess
      cases hsuccess
      rw [helements] at hlt ⊢
      rw [UInt64.toNat_ofNat_of_lt' (by exact_mod_cast hlt)]
    refine ⟨hexact, fun t t' env hdesc hcreates => ?_, fun t calls hrun hdesc hcheck => ?_⟩
    · obtain ⟨desc', byteSize, hdesc', hsuccess, hroom⟩ := hcreates.room
      cases hdesc.symm.trans hdesc'
      rwa [hexact byteSize hsuccess] at hroom
    · obtain ⟨desc', byteSize, hdesc', hsuccess, hroom⟩ :=
        UserTensor.checkTensorData_room hrun hcheck
      cases hdesc.symm.trans hdesc'
      rwa [hexact byteSize hsuccess] at hroom

/-- Four dimensions of 65536 floats. -/
def manyFloats : TensorDesc where
  dataType := .float32
  shape := [65536, 65536, 65536, 65536]

/-- Their byte size is zero. -/
theorem manyFloats_wraps : AllPositive manyFloats.shape ∧
    manyFloats.getByteSize = (.success, 0) ∧ ¬ manyFloats.GuaranteesRoom := by
  have hbytes : manyFloats.getByteSize = (.success, 0) := by decide
  refine ⟨?_, hbytes, fun hroom => ?_⟩
  · intro d hd
    obtain rfl : d = 65536 := by simpa [manyFloats] using hd
    decide
  have hexact := hroom.exact 0 hbytes
  have helements : manyFloats.elementBytes = 65536 * (65536 * (65536 * (65536 * 1))) * 4 := rfl
  rw [helements, UInt64.toNat_zero] at hexact
  omega

end TensorDesc

end NNRt
