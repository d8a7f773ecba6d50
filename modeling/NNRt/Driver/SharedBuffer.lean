import NNRt.Driver.TensorData

/-!
# What the driver is given

A `SharedBuffer` names a file descriptor, the size of the buffer behind it, and the
range of the data: an offset and a length. `TransIOTensor` and
`PrepareModelFromModelCache` write these numbers one after the other, in the same
way for version 2.0 and 2.1 of the driver.

- `transIOTensor_inRange`: a buffer of the memory manager is handed over whole.
- `sharedBuffer_inRange_iff`: a tensor of the user is handed over as its whole size
  behind its offset, which only fits if **the offset is 0**.
- `driverBuffers_inRange_iff`: **which buffers name a range inside themselves**, over
  every history of a tensor, every memory manager and every list of cache files.
- `offset_outOfRange`: a tensor in the second page of a file.
-/

namespace NNRt

/-- `SharedBuffer`, with the numbers it is initialised with. -/
structure SharedBuffer where
  fd : Int32
  bufferSize : UInt64
  offset : UInt64
  dataSize : UInt64
  deriving DecidableEq, Repr

/-- The range ends inside the buffer, and nothing wraps around: neither the sum nor
a number that goes into a field of `width` bits. -/
def SharedBuffer.InRange (width : Nat) (buffer : SharedBuffer) : Prop :=
  buffer.offset.toNat + buffer.dataSize.toNat ≤ buffer.bufferSize.toNat ∧
    buffer.bufferSize.toNat < 2 ^ width

instance (width : Nat) (buffer : SharedBuffer) : Decidable (buffer.InRange width) :=
  inferInstanceAs (Decidable (_ ∧ _))

/-- `DataType` of the driver interface. -/
inductive DriverDataType
  | unknown | bool | int8 | int16 | int32 | int64 | uint8 | uint16 | uint32 | uint64 | float16
  | float32 | float64
  deriving DecidableEq, Repr

/-- `Format` of the driver interface. -/
inductive DriverFormat
  | none | nchw | nhwc
  deriving DecidableEq, Repr

/-- `IOTensor` of the driver interface. -/
structure DriverIOTensor where
  name : Bytes
  dataType : DriverDataType
  dimensions : List Int32
  format : DriverFormat
  data : SharedBuffer
  deriving DecidableEq

/-- `INVALID_FD`. -/
def invalidFd : Int32 := -1

/-- `TransDataType`. -/
def transDataType : DataType → DriverDataType
  | .bool => .bool
  | .int8 => .int8
  | .int16 => .int16
  | .int32 => .int32
  | .int64 => .int64
  | .uint8 => .uint8
  | .uint16 => .uint16
  | .uint32 => .uint32
  | .uint64 => .uint64
  | .float16 => .float16
  | .float32 => .float32
  | .float64 => .float64
  | .unknown => .unknown

/-- `TransFormat`. -/
def transFormat : Format → DriverFormat
  | .nchw => .nchw
  | .nhwc => .nhwc
  | .none | .nd => .none

/-- `TransIOTensor` of an `IOTensor`. -/
def transIOTensor (m : MemoryManager) (tensor : IOTensor) : DriverIOTensor where
  name := tensor.name
  dataType := transDataType tensor.dataType
  dimensions := tensor.dimensions
  format := transFormat tensor.format
  data :=
    match tensor.data with
    | none => ⟨invalidFd, 0, 0, 0⟩
    | some address =>
      match m.getMemory (some address) with
      -- Memory the manager does not know is no error: it goes without a descriptor.
      | .error _ => ⟨invalidFd, 0, 0, 0⟩
      | .ok memory => ⟨memory.fd, memory.length, 0, memory.length⟩

/-- The buffer `TransIOTensor` makes of an `NN_Tensor`. -/
def UserTensor.sharedBuffer (t : UserTensor) : SharedBuffer :=
  ⟨t.fd, t.size, t.offset, t.size⟩

/-- `TransIOTensor` of an `NN_Tensor`, which may be null. -/
def transNNTensor (tensor : Option UserTensor) : Except ReturnCode DriverIOTensor :=
  match tensor with
  | none => .error .nullPtr
  | some t =>
    match t.tensorDesc with
    | none => .error .nullPtr
    | some desc =>
      if !t.checkTensorData then .error .invalidParameter
      else .ok {
        name := desc.name.val
        dataType := transDataType desc.dataType
        dimensions := desc.shape
        format := transFormat desc.format
        data := t.sharedBuffer }

/-- `Buffer`, as a device sees it: without its address. -/
structure CacheBuffer where
  length : UInt64 := 0
  fd : Int32 := -1
  deriving DecidableEq, Repr

/-- What `PrepareModelFromModelCache` passes on. -/
def prepareModelFromModelCache (modelCache : List CacheBuffer) : List SharedBuffer :=
  modelCache.map fun cache => ⟨cache.fd, cache.length, 0, cache.length⟩

/-! ## The ranges -/

section Ranges

variable {width : Nat}

theorem limit_lt_of_width (hwidth : 30 < width) {length : UInt64}
    (h : length ≤ allocateBufferLimit) : length.toNat < 2 ^ width := by
  have hlimit : length.toNat ≤ 2 ^ 30 := UInt64.le_iff_toNat_le.mp h
  have hpow : 2 ^ 31 ≤ 2 ^ width := Nat.pow_le_pow_right (by decide) hwidth
  omega

/-- **Memory of the runtime** is handed over whole. -/
theorem transIOTensor_inRange (hwidth : 30 < width) (m : MemoryManager) (tensor : IOTensor) :
    (transIOTensor m tensor).data.InRange width := by
  have hzero : SharedBuffer.InRange width ⟨invalidFd, 0, 0, 0⟩ :=
    ⟨Nat.le_refl 0, Nat.two_pow_pos width⟩
  unfold transIOTensor
  dsimp only
  cases tensor.data with
  | none => exact hzero
  | some address =>
    dsimp only
    cases hmemory : m.getMemory (some address) with
    | error ret => exact hzero
    | ok memory =>
      refine ⟨?_, limit_lt_of_width hwidth (MemoryManager.getMemory_length hmemory)⟩
      show 0 + memory.length.toNat ≤ memory.length.toNat
      omega

/-- **A list of cache files** is handed over whole. -/
theorem prepareModelFromModelCache_inRange_iff (modelCache : List CacheBuffer) :
    (∀ buffer ∈ prepareModelFromModelCache modelCache, buffer.InRange width) ↔
      ∀ cache ∈ modelCache, cache.length.toNat < 2 ^ width := by
  unfold prepareModelFromModelCache
  rw [List.forall_mem_map]
  constructor
  · intro h cache hcache
    exact (h cache hcache).2
  · intro h cache hcache
    refine ⟨?_, h cache hcache⟩
    show 0 + cache.length.toNat ≤ cache.length.toNat
    omega

namespace UserTensor

variable {t t' : UserTensor} {calls : List Call}

/-- What `TransIOTensor` makes of a tensor that passes its check. -/
theorem transNNTensor_data {tensor : DriverIOTensor} (h : transNNTensor (some t) = .ok tensor) :
    tensor.data = t.sharedBuffer := by
  unfold transNNTensor at h
  dsimp only at h
  split at h
  · cases h
  split at h
  · cases h
  · cases h
    rfl

theorem inRange_iff : t.sharedBuffer.InRange width ↔ t.offset = 0 ∧ t.size.toNat < 2 ^ width := by
  show t.offset.toNat + t.size.toNat ≤ t.size.toNat ∧ t.size.toNat < 2 ^ width ↔ _
  rw [← UInt64.toNat_inj, UInt64.toNat_zero]
  constructor
  · rintro ⟨hle, hlt⟩
    exact ⟨by omega, hlt⟩
  · rintro ⟨hzero, hlt⟩
    exact ⟨by omega, hlt⟩

/-- The condition on a call: a file of the user is taken from its beginning, and its
size fits. -/
def FitsFrom (width : Nat) (t : UserTensor) : Call → Prop
  | .createDataFromFd env fd size offset =>
    t.AcceptsFd env fd size offset → offset = 0 ∧ size.toNat < 2 ^ width
  | _ => True

theorem fitsFrom_of_refused {call : Call} (h : ¬ t.TakesFd call) : t.FitsFrom width call := by
  cases call with
  | createDataFromFd env fd size offset => exact fun haccepts => absurd haccepts h
  | _ => trivial

/-- A tensor without data has neither a size nor an offset. -/
def Unmapped (t : UserTensor) : Prop :=
  t.data = none → t.size = 0 ∧ t.offset = 0

theorem unmapped_step {call : Call} (h : t.Unmapped) (hstep : t.step call = .ok t') :
    t'.Unmapped := by
  cases newData hstep with
  | same _ _ _ hdata hsize hoffset =>
    intro hnone
    rw [hsize, hoffset]
    exact h (hdata.symm.trans hnone)
  | allocated _ _ _ _ hdata =>
    intro hnone
    rw [hnone] at hdata
    cases hdata
  | fromFd _ _ _ _ _ _ hdata =>
    intro hnone
    rw [hnone] at hdata
    cases hdata

/-- The buffer of a tensor after a call. -/
theorem inRange_step_iff (hwidth : 30 < width) {call : Call}
    (h : t.sharedBuffer.InRange width) (hstep : t.step call = .ok t') :
    t'.sharedBuffer.InRange width ↔ t.FitsFrom width call := by
  rw [inRange_iff] at h ⊢
  cases newData hstep with
  | same _ _ hrefused _ hsize hoffset =>
    rw [hsize, hoffset]
    exact iff_of_true h (fitsFrom_of_refused hrefused)
  | allocated _ _ hrefused _ _ hsize hoffset =>
    exact iff_of_true ⟨hoffset, limit_lt_of_width hwidth hsize⟩ (fitsFrom_of_refused hrefused)
  | fromFd env fd size offset _ haccepts _ hsize hoffset =>
    rw [hsize, hoffset]
    exact ⟨fun hfits _ => hfits, fun hfits => hfits haccepts⟩

/-- Data is created once: a range that lies outside stays there. -/
theorem not_inRange_step {call : Call} (hunmapped : t.Unmapped)
    (h : ¬ t.sharedBuffer.InRange width) (hstep : t.step call = .ok t') :
    ¬ t'.sharedBuffer.InRange width := by
  rw [inRange_iff] at h ⊢
  have hmapped : t.data ≠ none := by
    intro hnone
    obtain ⟨hsize, hoffset⟩ := hunmapped hnone
    refine h ⟨hoffset, ?_⟩
    rw [hsize]
    exact Nat.two_pow_pos width
  cases newData hstep with
  | same _ _ _ _ hsize hoffset => rwa [hsize, hoffset]
  | allocated _ _ _ hnew => exact absurd hnew hmapped
  | fromFd _ _ _ _ _ haccepts => exact absurd haccepts.new hmapped

/-- **A tensor of the user**, after any history. -/
theorem sharedBuffer_inRange_iff (hwidth : 30 < width) (h : Run.exec step {} calls = .ok t) :
    t.sharedBuffer.InRange width ↔ Run.Meets step (FitsFrom width) {} calls := by
  refine Run.exec_iff_meets (I := Unmapped) (P := fun t => t.sharedBuffer.InRange width)
    (fun _ _ _ => unmapped_step) (fun _ _ _ _ => inRange_step_iff hwidth)
    (fun _ _ _ => not_inRange_step) (fun _ => ⟨rfl, rfl⟩) ?_ h
  exact inRange_iff.mpr ⟨rfl, Nat.two_pow_pos width⟩

end UserTensor

end Ranges

/-- **Which buffers name a range inside themselves**: those of the runtime always, a
cache file if its length fits, and a tensor of the user if every file it has taken
was taken from offset 0 and its size fits. -/
theorem driverBuffers_inRange_iff {width : Nat} (hwidth : 30 < width) (m : MemoryManager)
    (tensor : IOTensor) (modelCache : List CacheBuffer) {calls : List UserTensor.Call}
    {t : UserTensor} (h : Run.exec UserTensor.step {} calls = .ok t) :
    (transIOTensor m tensor).data.InRange width ∧
      ((∀ buffer ∈ prepareModelFromModelCache modelCache, buffer.InRange width) ↔
        ∀ cache ∈ modelCache, cache.length.toNat < 2 ^ width) ∧
      (∀ ioTensor, transNNTensor (some t) = .ok ioTensor →
        (ioTensor.data.InRange width ↔
          Run.Meets UserTensor.step (UserTensor.FitsFrom width) {} calls)) := by
  refine ⟨transIOTensor_inRange hwidth m tensor,
    prepareModelFromModelCache_inRange_iff modelCache, fun ioTensor hio => ?_⟩
  rw [UserTensor.transNNTensor_data hio]
  exact UserTensor.sharedBuffer_inRange_iff hwidth h

/-! ## A file and its second page -/

/-- Four floats. -/
def fourFloats : TensorDesc := .floats 4

/-- What `mmap` answers. -/
def mappedEnv : TensorEnv := { mmap := some (.user 0) }

theorem fourFloats_bytes : fourFloats.getByteSize = (.success, 16) := by decide

/-- A tensor of two pages of file 3, from an offset on. -/
def filePages (offset : UInt64) : UserTensor where
  tensorDesc := some fourFloats
  data := some (.user 0)
  fd := 3
  size := 8192
  offset := offset
  isUserData := true

/-- The tensor is in the second of the two pages of file 3. The driver is told that
its data begins there and is two pages long. -/
theorem offset_outOfRange :
    ∃ t ioTensor, Run.exec UserTensor.step {}
        [.setTensorDesc true fourFloats, .createDataFromFd mappedEnv 3 8192 4096] = .ok t ∧
      transNNTensor (some t) = .ok ioTensor ∧
      ioTensor.data = ⟨3, 8192, 4096, 8192⟩ ∧ ¬ ioTensor.data.InRange 32 := by
  have haccepts : ({ tensorDesc := some fourFloats } : UserTensor).AcceptsFd mappedEnv 3 8192 4096 :=
    ⟨rfl, ⟨fourFloats, 16, rfl, fourFloats_bytes, by decide⟩, by decide, by decide, by decide, rfl⟩
  have hrun : Run.exec UserTensor.step {}
      [.setTensorDesc true fourFloats, .createDataFromFd mappedEnv 3 8192 4096]
      = .ok (filePages 4096) :=
    congrArg (fun result => Except.ok (Prod.snd result)) (UserTensor.createDataFromFd_eq haccepts)
  exact ⟨filePages 4096, _, hrun, rfl, rfl, by decide⟩

/-- From the beginning of the file the range is right. -/
theorem beginning_inRange :
    ∃ t ioTensor, Run.exec UserTensor.step {}
        [.setTensorDesc true fourFloats, .createDataFromFd mappedEnv 3 8192 0] = .ok t ∧
      transNNTensor (some t) = .ok ioTensor ∧ ioTensor.data.InRange 32 := by
  have haccepts : ({ tensorDesc := some fourFloats } : UserTensor).AcceptsFd mappedEnv 3 8192 0 :=
    ⟨rfl, ⟨fourFloats, 16, rfl, fourFloats_bytes, by decide⟩, by decide, by decide, by decide, rfl⟩
  have hrun : Run.exec UserTensor.step {}
      [.setTensorDesc true fourFloats, .createDataFromFd mappedEnv 3 8192 0]
      = .ok (filePages 0) :=
    congrArg (fun result => Except.ok (Prod.snd result)) (UserTensor.createDataFromFd_eq haccepts)
  have hranges := @driverBuffers_inRange_iff 32 (by decide) {}
    { dataType := .float32, format := .none, dimensions := [4], data := none, length := 0 } [] _ _ hrun
  refine ⟨filePages 0, _, hrun, rfl, (hranges.2.2 _ rfl).mpr ?_⟩
  refine ⟨trivial, fun t ht => ⟨?_, fun _ _ => trivial⟩⟩
  exact fun _ => ⟨rfl, by decide⟩

end NNRt
