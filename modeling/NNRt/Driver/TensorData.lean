import NNRt.Executor.State
import NNRt.Lib.Run

/-!
# The data of tensors

`MemoryManager` knows the buffers that were mapped for executors; an `NNTensor2_0`
maps its data itself, from memory of the device or from a file of the user.

- `MemoryManager`: no mapped buffer is larger than the limit, whatever has been
  mapped and unmapped.
- `createDataFromFd_eq` / `createDataFromFd_refused`: when a tensor takes the file of
  the user.
- `newData`: **what a call does to size and offset** of a tensor.
-/

namespace NNRt

/-- `ALLOCATE_BUFFER_LIMIT`, which is 1 GiB. -/
def allocateBufferLimit : UInt64 := 1024 * 1024 * 1024

/-! ## `MemoryManager` -/

/-- `Memory`, without its address, which is the key. -/
structure Memory where
  fd : Int32
  length : UInt64
  deriving DecidableEq, Repr

/-- `MemoryManager`: the buffers by address, all of them within the limit. -/
structure MemoryManager where
  memorys : AList fun _ : Address => Memory := ∅
  length_le : ∀ address memory, memorys.lookup address = some memory →
    memory.length ≤ allocateBufferLimit := by simp

namespace MemoryManager

/-- `m_memorys.emplace`, which keeps the entry that is there. -/
def emplace (m : MemoryManager) (address : Address) (memory : Memory)
    (h : memory.length ≤ allocateBufferLimit) : MemoryManager where
  memorys := if (m.memorys.lookup address).isSome then m.memorys else m.memorys.insert address memory
  length_le := by
    intro address' memory' hlookup
    split at hlookup
    · exact m.length_le address' memory' hlookup
    · by_cases heq : address' = address
      · subst heq
        rw [AList.lookup_insert, Option.some.injEq] at hlookup
        rwa [← hlookup]
      · rw [AList.lookup_insert_ne heq] at hlookup
        exact m.length_le address' memory' hlookup

/-- `MapMemory`; `mmap` is the address it returns, if it succeeds. -/
def mapMemory (m : MemoryManager) (mmap : Option Address) (fd : Int32) (length : UInt64) :
    Option Address × MemoryManager :=
  if fd < 0 then (none, m)
  else if h : length = 0 ∨ length > allocateBufferLimit then (none, m)
  else
    match mmap with
    | none => (none, m)
    | some address =>
      (some address, m.emplace address ⟨fd, length⟩ (UInt64.not_lt.mp fun hlt => h (Or.inr hlt)))

/-- `UnMapMemory`; `munmap` tells whether it succeeds. -/
def unMapMemory (m : MemoryManager) (munmap : Bool) (buffer : Option Address) :
    ReturnCode × MemoryManager :=
  match buffer with
  | none => (.invalidParameter, m)
  | some address =>
    if (m.memorys.lookup address).isNone then (.invalidParameter, m)
    else if !munmap then (.memoryError, m)
    else (.success,
      { memorys := m.memorys.erase address
        length_le := by
          intro address' memory hlookup
          by_cases heq : address' = address
          · subst heq
            simp at hlookup
          · rw [AList.lookup_erase_ne heq] at hlookup
            exact m.length_le address' memory hlookup })

/-- `GetMemory`. -/
def getMemory (m : MemoryManager) (buffer : Option Address) : Except ReturnCode Memory :=
  match buffer with
  | none => .error .nullPtr
  | some address =>
    match m.memorys.lookup address with
    | none => .error .invalidParameter
    | some memory => .ok memory

theorem getMemory_length {m : MemoryManager} {buffer : Option Address} {memory : Memory}
    (h : m.getMemory buffer = .ok memory) : memory.length ≤ allocateBufferLimit := by
  unfold getMemory at h
  split at h
  · cases h
  split at h
  · cases h
  rename_i hlookup
  cases h
  exact m.length_le _ _ hlookup

end MemoryManager

/-! ## `NNTensor2_0` -/

/-- `NNTensor2_0` with the members only it and the driver read. -/
structure UserTensor extends NNTensor2_0 where
  data : Option Address := none
  fd : Int32 := 0
  isUserData : Bool := false
  deriving DecidableEq

/-- What is outside a tensor while it gets its data. -/
structure TensorEnv where
  /-- Whether the backend is found, and whether it has a device. -/
  backend : Bool := true
  device : Bool := true
  /-- `AllocateBuffer` of the driver: its code and the file descriptor. -/
  allocateBuffer : ReturnCode × Int32 := (.success, 0)
  /-- The address `mmap` returns, if it succeeds. -/
  mmap : Option Address := none

namespace UserTensor

/-- `SetTensorDesc`, which deletes the old description first. -/
def setTensorDesc (t : UserTensor) (created : Bool) (tensorDesc : TensorDesc) :
    ReturnCode × UserTensor :=
  if created then (.success, { t with tensorDesc := some tensorDesc })
  else (.nullPtr, { t with tensorDesc := none })

/-- `AllocateMemory`. The device refuses to allocate a buffer of length 0. -/
def allocateMemory (t : UserTensor) (env : TensorEnv) (length : UInt64) : ReturnCode × UserTensor :=
  if !env.backend then (.nullPtr, t)
  else if !env.device then (.nullPtr, t)
  else if length = 0 ∨ env.allocateBuffer.1 ≠ .success then (.memoryError, t)
  else if env.allocateBuffer.2 < 0 then (.invalidParameter, t)
  else
    -- The descriptor is stored once the memory is mapped.
    match env.mmap with
    | none => (.memoryError, { t with data := none })
    | some address =>
      (.success, { t with
        data := some address, fd := env.allocateBuffer.2, offset := 0, size := length })

/-- The end of the two forms of `CreateData` that allocate memory of the device. -/
def createOwnData (t : UserTensor) (env : TensorEnv) (length : UInt64) : ReturnCode × UserTensor :=
  match t.allocateMemory env length with
  | (.success, t) => (.success, { t with isUserData := false })
  | (ret, t) => (ret, t)

/-- `CreateData()`. -/
def createData (t : UserTensor) (env : TensorEnv) : ReturnCode × UserTensor :=
  if t.data.isSome then (.failed, t)
  else
    match t.tensorDesc with
    | none => (.nullPtr, t)
    | some tensorDesc =>
      match tensorDesc.getByteSize with
      | (.success, byteSize) =>
        if byteSize > allocateBufferLimit then (.invalidParameter, t)
        else t.createOwnData env byteSize
      | (ret, _) => (ret, t)

/-- `CreateData(size)`. -/
def createDataOfSize (t : UserTensor) (env : TensorEnv) (size : UInt64) : ReturnCode × UserTensor :=
  if t.data.isSome then (.failed, t)
  else
    match t.tensorDesc with
    | none => (.nullPtr, t)
    | some tensorDesc =>
      if size > allocateBufferLimit then (.invalidParameter, t)
      else
        match tensorDesc.getByteSize with
        | (.success, byteSize) =>
          if size < byteSize then (.invalidParameter, t)
          else t.createOwnData env size
        | (ret, _) => (ret, t)

/-- `CreateData(fd, size, offset)`. -/
def createDataFromFd (t : UserTensor) (env : TensorEnv) (fd : Int32) (size offset : UInt64) :
    ReturnCode × UserTensor :=
  if t.data.isSome then (.failed, t)
  else
    match t.tensorDesc with
    | none => (.nullPtr, t)
    | some tensorDesc =>
      match tensorDesc.getByteSize with
      | (.success, byteSize) =>
        if fd < 0 then (.invalidParameter, t)
        else if size = 0 then (.invalidParameter, t)
        else if size < offset then (.invalidParameter, t)
        else if size - offset < byteSize then (.invalidParameter, t)
        else
          match env.mmap with
          | none => (.memoryError, { t with data := none })
          | some address =>
            (.success, { t with
              data := some address, fd := fd, size := size, offset := offset, isUserData := true })
      | (ret, _) => (ret, t)

/-- `CheckTensorData`. -/
def checkTensorData (t : UserTensor) : Bool :=
  match t.tensorDesc with
  | none => false
  | some tensorDesc =>
    match tensorDesc.getByteSize with
    | (.success, byteSize) =>
      if t.size - t.offset < byteSize then false
      else if t.data.isNone then false
      else if t.fd < 0 then false
      else true
    | _ => false

/-! ## Histories -/

/-- A call on a tensor. -/
inductive Call
  | setTensorDesc (created : Bool) (tensorDesc : TensorDesc)
  /-- Somebody writes to the description `GetTensorDesc` points to. -/
  | changeDesc (tensorDesc : TensorDesc)
  | createData (env : TensorEnv)
  | createDataOfSize (env : TensorEnv) (size : UInt64)
  | createDataFromFd (env : TensorEnv) (fd : Int32) (size offset : UInt64)

/-- One call; none of them faults. -/
def step (t : UserTensor) : Call → Except Fault UserTensor
  | .setTensorDesc created tensorDesc => .ok (t.setTensorDesc created tensorDesc).2
  | .changeDesc tensorDesc => .ok { t with tensorDesc := t.tensorDesc.map fun _ => tensorDesc }
  | .createData env => .ok (t.createData env).2
  | .createDataOfSize env size => .ok (t.createDataOfSize env size).2
  | .createDataFromFd env fd size offset => .ok (t.createDataFromFd env fd size offset).2

/-- The tensor takes the file of the user. -/
structure AcceptsFd (t : UserTensor) (env : TensorEnv) (fd : Int32) (size offset : UInt64) :
    Prop where
  new : t.data = none
  desc : ∃ tensorDesc byteSize, t.tensorDesc = some tensorDesc ∧
    tensorDesc.getByteSize = (.success, byteSize) ∧ byteSize ≤ size - offset
  fd_nonneg : 0 ≤ fd
  size_ne : size ≠ 0
  offset_le : offset ≤ size
  mapped : env.mmap.isSome

variable {t t' : UserTensor} {env : TensorEnv} {fd : Int32} {size offset : UInt64} {call : Call}

theorem createDataFromFd_eq (h : t.AcceptsFd env fd size offset) :
    t.createDataFromFd env fd size offset
      = (.success, { t with data := env.mmap, fd := fd, size := size, offset := offset,
                            isUserData := true }) := by
  obtain ⟨tensorDesc, byteSize, hdesc, hbytes, hle⟩ := h.desc
  obtain ⟨address, hmmap⟩ := Option.isSome_iff_exists.mp h.mapped
  unfold createDataFromFd
  rw [if_neg (by rw [h.new]; nofun), hdesc]
  dsimp only
  rw [hbytes]
  dsimp only
  rw [if_neg (Int32.not_lt.mpr h.fd_nonneg), if_neg h.size_ne,
    if_neg (UInt64.not_lt.mpr h.offset_le), if_neg (UInt64.not_lt.mpr hle), hmmap]

/-- A file that is refused leaves size and offset as they are. -/
theorem createDataFromFd_refused (h : ¬ t.AcceptsFd env fd size offset) :
    (t.createDataFromFd env fd size offset).2 = t := by
  unfold createDataFromFd
  by_cases hdata : t.data.isSome
  · rw [if_pos hdata]
  rw [if_neg hdata]
  have hnew : t.data = none := Option.not_isSome_iff_eq_none.mp hdata
  cases hdesc : t.tensorDesc with
  | none => rfl
  | some tensorDesc =>
    dsimp only
    split
    · rename_i byteSize hbytes
      by_cases hfd : fd < 0
      · rw [if_pos hfd]
      rw [if_neg hfd]
      by_cases hsize : size = 0
      · rw [if_pos hsize]
      rw [if_neg hsize]
      by_cases hoffset : size < offset
      · rw [if_pos hoffset]
      rw [if_neg hoffset]
      by_cases hroom : size - offset < byteSize
      · rw [if_pos hroom]
      rw [if_neg hroom]
      cases hmmap : env.mmap with
      | none =>
        show { t with data := none } = t
        rw [← hnew]
      | some address =>
        exact absurd ⟨hnew, ⟨tensorDesc, byteSize, hdesc, hbytes, UInt64.not_lt.mp hroom⟩,
          Int32.not_lt.mp hfd, hsize, UInt64.not_lt.mp hoffset, by rw [hmmap]; rfl⟩ h
    · rfl

/-- What `AllocateMemory` does to a tensor without data: nothing, or it maps
`length` bytes from the beginning of a buffer. -/
theorem allocateMemory_effect (hnew : t.data = none) (env : TensorEnv) (length : UInt64) :
    ((t.allocateMemory env length).1 ≠ .success ∧ (t.allocateMemory env length).2 = t) ∨
      ((t.allocateMemory env length).1 = .success ∧
        ∃ address, (t.allocateMemory env length).2 = { t with
          data := some address, fd := env.allocateBuffer.2, offset := 0, size := length }) := by
  unfold allocateMemory
  split
  · exact Or.inl ⟨nofun, rfl⟩
  split
  · exact Or.inl ⟨nofun, rfl⟩
  split
  · exact Or.inl ⟨nofun, rfl⟩
  split
  · exact Or.inl ⟨nofun, rfl⟩
  cases env.mmap with
  | none =>
    refine Or.inl ⟨nofun, ?_⟩
    show { t with data := none } = t
    rw [← hnew]
  | some address => exact Or.inr ⟨rfl, address, rfl⟩

/-- The call gives the tensor a file, and the tensor takes it. -/
def TakesFd (t : UserTensor) : Call → Prop
  | .createDataFromFd env fd size offset => t.AcceptsFd env fd size offset
  | _ => False

/-- What a call can do to the size and to the offset of a tensor. -/
inductive NewData (t : UserTensor) : Call → UserTensor → Prop
  | same (call : Call) (t' : UserTensor) (hrefused : ¬ t.TakesFd call) (hdata : t'.data = t.data)
      (hsize : t'.size = t.size) (hoffset : t'.offset = t.offset) : NewData t call t'
  | allocated (call : Call) (t' : UserTensor) (hrefused : ¬ t.TakesFd call) (hnew : t.data = none)
      (hdata : t'.data.isSome) (hsize : t'.size ≤ allocateBufferLimit) (hoffset : t'.offset = 0) :
      NewData t call t'
  | fromFd (env : TensorEnv) (fd : Int32) (size offset : UInt64) (t' : UserTensor)
      (haccepts : t.AcceptsFd env fd size offset) (hdata : t'.data.isSome) (hsize : t'.size = size)
      (hoffset : t'.offset = offset) : NewData t (.createDataFromFd env fd size offset) t'

theorem NewData.unchanged (h : ¬ t.TakesFd call) : NewData t call t :=
  .same call t h rfl rfl rfl

theorem newData_createOwnData {length : UInt64} (hrefused : ¬ t.TakesFd call) (hnew : t.data = none)
    (hlength : length ≤ allocateBufferLimit) : NewData t call (t.createOwnData env length).2 := by
  have heffect := allocateMemory_effect hnew env length
  unfold createOwnData
  generalize t.allocateMemory env length = result at heffect ⊢
  obtain ⟨ret, t₁⟩ := result
  rcases heffect with ⟨hret, rfl⟩ | ⟨rfl, address, rfl⟩
  · cases ret <;> first | exact .unchanged hrefused | exact absurd rfl hret
  · exact .allocated call _ hrefused hnew rfl hlength rfl

/-- **What a call does** to the size and to the offset of a tensor. -/
theorem newData (h : t.step call = .ok t') : NewData t call t' := by
  cases call with
  | setTensorDesc created tensorDesc =>
    cases h
    unfold setTensorDesc
    split
    · exact .same _ _ id rfl rfl rfl
    · exact .same _ _ id rfl rfl rfl
  | changeDesc tensorDesc =>
    cases h
    exact .same _ _ id rfl rfl rfl
  | createData env =>
    cases h
    have hrefused : ¬ t.TakesFd (.createData env) := id
    unfold createData
    by_cases hdata : t.data.isSome
    · rw [if_pos hdata]
      exact .unchanged hrefused
    rw [if_neg hdata]
    split
    · exact .unchanged hrefused
    split
    · split
      · exact .unchanged hrefused
      · rename_i hle
        exact newData_createOwnData hrefused (Option.not_isSome_iff_eq_none.mp hdata)
          (UInt64.not_lt.mp hle)
    · exact .unchanged hrefused
  | createDataOfSize env size =>
    cases h
    have hrefused : ¬ t.TakesFd (.createDataOfSize env size) := id
    unfold createDataOfSize
    by_cases hdata : t.data.isSome
    · rw [if_pos hdata]
      exact .unchanged hrefused
    rw [if_neg hdata]
    split
    · exact .unchanged hrefused
    split
    · exact .unchanged hrefused
    rename_i hle
    split
    · split
      · exact .unchanged hrefused
      · exact newData_createOwnData hrefused (Option.not_isSome_iff_eq_none.mp hdata)
          (UInt64.not_lt.mp hle)
    · exact .unchanged hrefused
  | createDataFromFd env fd size offset =>
    cases h
    by_cases haccepts : t.AcceptsFd env fd size offset
    · rw [createDataFromFd_eq haccepts]
      exact .fromFd env fd size offset _ haccepts haccepts.mapped rfl rfl
    · rw [createDataFromFd_refused haccepts]
      exact .unchanged haccepts

end UserTensor

end NNRt
