import NNRt.Driver.TensorData

/-!
# What a tensor holds

A tensor gets a buffer of the device and maps it, or it maps a file of the user; its destructor
undoes both. Here the buffers and the mappings are numbered as they are handed out, and what
is given back is kept.

- `step_tensor`: for the members of the tensor nothing changes.
- `performed`: what a call gets, and what it keeps.
- `released_once`: **nothing is given back twice, and no file of the user to the device.**
- `memoryKept_iff`: **when failed calls leave nothing behind.**
-/

namespace NNRt

/-- A tensor, and what it has got from the device and the kernel. -/
structure TrackedTensor where
  tensor : UserTensor := {}
  /-- The buffer of the device the descriptor is of. -/
  buffer : Option Nat := none
  /-- The mapping the data is in. -/
  mapping : Option Nat := none
  /-- How many buffers and mappings there were. -/
  allocated : Nat := 0
  mapped : Nat := 0
  /-- What was given to `ReleaseBuffer`; `none` is not a buffer of the device. -/
  released : List (Option Nat) := []
  /-- What was given to `munmap`. -/
  unmapped : List (Option Nat) := []

/-- What is outside a tensor while it is destroyed. -/
structure DestroyEnv where
  munmap : Bool := true
  backend : Bool := true
  device : Bool := true
  releaseBuffer : ReturnCode := .success

namespace TrackedTensor

open UserTensor (Call)

/-- A mapping is made. -/
def map (s : TrackedTensor) : TrackedTensor :=
  { s with mapping := some s.mapped, mapped := s.mapped + 1 }

/-- `AllocateMemory`. -/
def allocateMemory (s : TrackedTensor) (env : TensorEnv) (length : UInt64) :
    ReturnCode × TrackedTensor :=
  if !env.backend then (.nullPtr, s)
  else if !env.device then (.nullPtr, s)
  else if length = 0 ∨ env.allocateBuffer.1 ≠ .success then (.memoryError, s)
  else
    -- From here on the device has handed out a buffer.
    let buffer := s.allocated
    let s := { s with allocated := s.allocated + 1 }
    if env.allocateBuffer.2 < 0 then (.invalidParameter, s)
    else
      match env.mmap with
      | none => (.memoryError, { s with tensor := { s.tensor with data := none } })
      | some address =>
        (.success, { s.map with
          buffer := some buffer
          tensor := { s.tensor with
            data := some address, fd := env.allocateBuffer.2, offset := 0, size := length } })

/-- The end of the two forms of `CreateData` that allocate memory of the device. -/
def createOwnData (s : TrackedTensor) (env : TensorEnv) (length : UInt64) :
    ReturnCode × TrackedTensor :=
  match s.allocateMemory env length with
  | (.success, s) => (.success, { s with tensor := { s.tensor with isUserData := false } })
  | (ret, s) => (ret, s)

/-- `CreateData()`. -/
def createData (s : TrackedTensor) (env : TensorEnv) : ReturnCode × TrackedTensor :=
  if s.tensor.data.isSome then (.failed, s)
  else
    match s.tensor.tensorDesc with
    | none => (.nullPtr, s)
    | some tensorDesc =>
      match tensorDesc.getByteSize with
      | (.success, byteSize) =>
        if byteSize > allocateBufferLimit then (.invalidParameter, s)
        else s.createOwnData env byteSize
      | (ret, _) => (ret, s)

/-- `CreateData(size)`. -/
def createDataOfSize (s : TrackedTensor) (env : TensorEnv) (size : UInt64) :
    ReturnCode × TrackedTensor :=
  if s.tensor.data.isSome then (.failed, s)
  else
    match s.tensor.tensorDesc with
    | none => (.nullPtr, s)
    | some tensorDesc =>
      if size > allocateBufferLimit then (.invalidParameter, s)
      else
        match tensorDesc.getByteSize with
        | (.success, byteSize) =>
          if size < byteSize then (.invalidParameter, s)
          else s.createOwnData env size
        | (ret, _) => (ret, s)

/-- `CreateData(fd, size, offset)`. A descriptor of the user is not a buffer of the device. -/
def createDataFromFd (s : TrackedTensor) (env : TensorEnv) (fd : Int32) (size offset : UInt64) :
    ReturnCode × TrackedTensor :=
  match s.tensor.createDataFromFd env fd size offset with
  | (.success, tensor) => (.success, { s.map with tensor := tensor, buffer := none })
  | (ret, tensor) => (ret, { s with tensor := tensor })

/-- One call, and its code. -/
def perform (s : TrackedTensor) : Call → ReturnCode × TrackedTensor
  | .setTensorDesc created tensorDesc =>
    ((s.tensor.setTensorDesc created tensorDesc).1,
      { s with tensor := (s.tensor.setTensorDesc created tensorDesc).2 })
  | .changeDesc tensorDesc =>
    (.success, { s with
      tensor := { s.tensor with tensorDesc := s.tensor.tensorDesc.map fun _ => tensorDesc } })
  | .createData env => s.createData env
  | .createDataOfSize env size => s.createDataOfSize env size
  | .createDataFromFd env fd size offset => s.createDataFromFd env fd size offset

def step (s : TrackedTensor) (call : Call) : Except Fault TrackedTensor :=
  .ok (s.perform call).2

/-! ## Destruction -/

/-- `ReleaseMemory`. -/
def releaseMemory (s : TrackedTensor) (env : DestroyEnv) : ReturnCode × TrackedTensor :=
  if s.tensor.size = 0 ∨ s.tensor.data.isNone then (.success, s)
  else if s.tensor.fd < 0 then (.invalidParameter, s)
  else
    let s := { s with unmapped := s.unmapped ++ [s.mapping] }
    if !env.munmap then (.memoryError, s)
    else
      let cleared (s : TrackedTensor) : TrackedTensor :=
        { s with tensor := { s.tensor with data := none, size := 0, fd := 0 } }
      if s.tensor.isUserData then (.success, cleared s)
      else if !env.backend then (.nullPtr, s)
      else if !env.device then (.nullPtr, s)
      else
        let s := { s with released := s.released ++ [s.buffer] }
        if env.releaseBuffer ≠ .success then (.memoryError, s) else (.success, cleared s)

/-- `~NNTensor2_0`: what is left in the records. The code of `ReleaseMemory` is not looked
at. -/
def destroy (s : TrackedTensor) (env : DestroyEnv) : TrackedTensor :=
  let s := (s.releaseMemory env).2
  { s with
    tensor := { s.tensor with
      tensorDesc := none, data := none, fd := 0, offset := 0, size := 0, isUserData := false } }

/-! ## The tensor as it was modelled -/

section Projection

variable (s : TrackedTensor) (env : TensorEnv)

theorem allocateMemory_tensor (length : UInt64) :
    (s.allocateMemory env length).map id tensor = s.tensor.allocateMemory env length := by
  unfold allocateMemory UserTensor.allocateMemory
  cases env.backend <;> cases env.device <;> try rfl
  by_cases hrefused : length = 0 ∨ env.allocateBuffer.1 ≠ .success
  · simp [hrefused]
  by_cases hfd : env.allocateBuffer.2 < 0
  · simp [hrefused, hfd]
  cases env.mmap <;> simp [hrefused, hfd, map]

theorem createOwnData_tensor (length : UInt64) :
    (s.createOwnData env length).map id tensor = s.tensor.createOwnData env length := by
  unfold createOwnData UserTensor.createOwnData
  rw [← allocateMemory_tensor]
  obtain ⟨ret, s'⟩ := s.allocateMemory env length
  cases ret <;> rfl

theorem createData_tensor :
    (s.createData env).map id tensor = s.tensor.createData env := by
  unfold createData UserTensor.createData
  split
  · rfl
  cases s.tensor.tensorDesc with
  | none => rfl
  | some tensorDesc =>
    dsimp only
    generalize tensorDesc.getByteSize = answer
    obtain ⟨ret, byteSize⟩ := answer
    cases ret with
    | success =>
      dsimp only
      split
      · rfl
      · exact createOwnData_tensor s env byteSize
    | _ => rfl

theorem createDataOfSize_tensor (size : UInt64) :
    (s.createDataOfSize env size).map id tensor = s.tensor.createDataOfSize env size := by
  unfold createDataOfSize UserTensor.createDataOfSize
  split
  · rfl
  cases s.tensor.tensorDesc with
  | none => rfl
  | some tensorDesc =>
    dsimp only
    split
    · rfl
    generalize tensorDesc.getByteSize = answer
    obtain ⟨ret, byteSize⟩ := answer
    cases ret with
    | success =>
      dsimp only
      split
      · rfl
      · exact createOwnData_tensor s env size
    | _ => rfl

theorem createDataFromFd_tensor (fd : Int32) (size offset : UInt64) :
    (s.createDataFromFd env fd size offset).map id tensor =
      s.tensor.createDataFromFd env fd size offset := by
  unfold createDataFromFd
  obtain ⟨ret, t⟩ := s.tensor.createDataFromFd env fd size offset
  cases ret <;> rfl

end Projection

/-- **The records are only records**: the tensor is that of `UserTensor.step`. -/
theorem step_tensor (s : TrackedTensor) (call : Call) :
    s.tensor.step call = (s.step call).map tensor := by
  cases call with
  | setTensorDesc created tensorDesc => rfl
  | changeDesc tensorDesc => rfl
  | createData env => exact congrArg (Except.ok ·.2) (s.createData_tensor env).symm
  | createDataOfSize env size =>
    exact congrArg (Except.ok ·.2) (s.createDataOfSize_tensor env size).symm
  | createDataFromFd env fd size offset =>
    exact congrArg (Except.ok ·.2) (s.createDataFromFd_tensor env fd size offset).symm

/-! ## What a call gets -/

/-- The call comes to `AllocateMemory` with this length. -/
inductive Asks (t : UserTensor) : Call → TensorEnv → UInt64 → Prop
  | ofDesc {env : TensorEnv} {tensorDesc : TensorDesc} {byteSize : UInt64} (hnew : t.data = none)
    (hdesc : t.tensorDesc = some tensorDesc)
    (hbytes : tensorDesc.getByteSize = (.success, byteSize))
    (hle : byteSize ≤ allocateBufferLimit) : Asks t (.createData env) env byteSize
  | ofSize {env : TensorEnv} {tensorDesc : TensorDesc} {byteSize size : UInt64}
    (hnew : t.data = none) (hdesc : t.tensorDesc = some tensorDesc)
    (hbytes : tensorDesc.getByteSize = (.success, byteSize)) (hroom : byteSize ≤ size)
    (hle : size ≤ allocateBufferLimit) : Asks t (.createDataOfSize env size) env size

/-- The device hands out a buffer, which then cannot be mapped: it has no descriptor, or `mmap`
fails. -/
structure Loses (env : TensorEnv) (length : UInt64) : Prop where
  backend : env.backend = true
  device : env.device = true
  length_ne : length ≠ 0
  allocated : env.allocateBuffer.1 = .success
  unmapped : env.allocateBuffer.2 < 0 ∨ env.mmap = none

/-- A buffer is handed out to a call that fails. -/
def Strands (t : UserTensor) (call : Call) : Prop :=
  ∃ env length, Asks t call env length ∧ Loses env length

/-- How a call that comes to `AllocateMemory` ends. -/
inductive Allocated (s : TrackedTensor) (env : TensorEnv) (length : UInt64) :
    ReturnCode × TrackedTensor → Prop
  | refused {ret : ReturnCode} (hret : ret ≠ .success) (hloses : ¬ Loses env length) :
    Allocated s env length (ret, s)
  | lost {ret : ReturnCode} (hret : ret ≠ .success) (hloses : Loses env length) :
    Allocated s env length (ret, { s with allocated := s.allocated + 1 })
  | mapped {tensor : UserTensor} (hloses : ¬ Loses env length) (hdata : tensor.data.isSome = true)
    (huser : tensor.isUserData = false) :
    Allocated s env length (.success, { s with
      allocated := s.allocated + 1, mapped := s.mapped + 1, buffer := some s.allocated
      mapping := some s.mapped, tensor := tensor })

/-- **`AllocateMemory`** of a tensor without data. -/
theorem createOwnData_allocated {s : TrackedTensor} (hnew : s.tensor.data = none)
    (env : TensorEnv) (length : UInt64) :
    Allocated s env length (s.createOwnData env length) := by
  have hsame : ({ s.tensor with data := none } : UserTensor) = s.tensor := by rw [← hnew]
  unfold createOwnData allocateMemory
  by_cases hbackend : env.backend = true
  swap
  · rw [Bool.not_eq_true] at hbackend
    rw [hbackend]
    exact .refused nofun fun h => by cases hbackend.symm.trans h.backend
  by_cases hdevice : env.device = true
  swap
  · rw [Bool.not_eq_true] at hdevice
    rw [hbackend, hdevice]
    exact .refused nofun fun h => by cases hdevice.symm.trans h.device
  rw [hbackend, hdevice]
  by_cases hrefused : length = 0 ∨ env.allocateBuffer.1 ≠ .success
  · simp only [Bool.not_true, Bool.false_eq_true, if_false, if_pos hrefused]
    refine .refused nofun fun h => hrefused.elim h.length_ne fun hcode => hcode h.allocated
  obtain ⟨hlength, hcode⟩ := not_or.mp hrefused
  have hloses (hunmapped : env.allocateBuffer.2 < 0 ∨ env.mmap = none) : Loses env length :=
    ⟨hbackend, hdevice, hlength, not_not.mp hcode, hunmapped⟩
  simp only [Bool.not_true, Bool.false_eq_true, if_false, if_neg hrefused]
  by_cases hfd : env.allocateBuffer.2 < 0
  · simp only [if_pos hfd]
    exact .lost nofun (hloses (Or.inl hfd))
  simp only [if_neg hfd]
  cases hmmap : env.mmap with
  | none =>
    dsimp only
    rw [hsame]
    exact .lost nofun (hloses (Or.inr hmmap))
  | some address =>
    refine .mapped (fun h => ?_) rfl rfl
    rcases h.unmapped with hneg | hnone
    · exact hfd hneg
    · cases hmmap.symm.trans hnone

section Performed

variable {s s' : TrackedTensor} {call : Call} {env : TensorEnv} {length : UInt64}

theorem perform_asks (h : Asks s.tensor call env length) :
    s.perform call = s.createOwnData env length := by
  cases h with
  | ofDesc hnew hdesc hbytes hle =>
    show s.createData env = _
    unfold createData
    rw [if_neg (by rw [hnew]; nofun), hdesc]
    dsimp only
    rw [hbytes]
    dsimp only
    rw [if_neg (UInt64.not_lt.mpr hle)]
  | ofSize hnew hdesc hbytes hroom hle =>
    show s.createDataOfSize env length = _
    unfold createDataOfSize
    rw [if_neg (by rw [hnew]; nofun), hdesc]
    dsimp only
    rw [if_neg (UInt64.not_lt.mpr hle), hbytes]
    dsimp only
    rw [if_neg (UInt64.not_lt.mpr hroom)]

theorem Asks.new (h : Asks s.tensor call env length) : s.tensor.data = none := by
  cases h <;> assumption

/-- A call asks for one length. -/
theorem Asks.strands_iff (h : Asks s.tensor call env length) :
    Strands s.tensor call ↔ Loses env length := by
  constructor
  · rintro ⟨env', length', h', hloses⟩
    cases h with
    | ofDesc _ hdesc hbytes _ =>
      cases h' with
      | ofDesc _ hdesc' hbytes' _ =>
        cases hdesc.symm.trans hdesc'
        cases hbytes.symm.trans hbytes'
        exact hloses
    | ofSize =>
      cases h' with
      | ofSize => exact hloses
  · exact fun hloses => ⟨env, length, h, hloses⟩

/-- The members that say what data a tensor has. -/
structure SameData (t t' : UserTensor) : Prop where
  data : t'.data = t.data
  fd : t'.fd = t.fd
  size : t'.size = t.size
  offset : t'.offset = t.offset
  isUserData : t'.isUserData = t.isUserData

/-- How a call ends. -/
inductive Performed (s : TrackedTensor) (call : Call) : ReturnCode × TrackedTensor → Prop
  /-- It fails before anything is handed out, or it is not about the data. -/
  | kept {ret : ReturnCode} {tensor : UserTensor} (hstrands : ¬ Strands s.tensor call)
    (hsame : SameData s.tensor tensor) : Performed s call (ret, { s with tensor := tensor })
  | lost {ret : ReturnCode} (hret : ret ≠ .success) (hstrands : Strands s.tensor call) :
    Performed s call (ret, { s with allocated := s.allocated + 1 })
  | own {tensor : UserTensor} (hstrands : ¬ Strands s.tensor call)
    (huser : tensor.isUserData = false) :
    Performed s call (.success, { s with
      allocated := s.allocated + 1, mapped := s.mapped + 1, buffer := some s.allocated
      mapping := some s.mapped, tensor := tensor })
  | user {tensor : UserTensor} (hstrands : ¬ Strands s.tensor call)
    (huser : tensor.isUserData = true) :
    Performed s call (.success, { s.map with tensor := tensor, buffer := none })

/-- The ways on which nothing happens. -/
theorem Performed.unchanged (hstrands : ¬ Strands s.tensor call) (ret : ReturnCode) :
    Performed s call (ret, s) :=
  @Performed.kept s call ret s.tensor hstrands ⟨rfl, rfl, rfl, rfl, rfl⟩

/-- A file is taken only if it is accepted. -/
theorem createDataFromFd_accepts {t : UserTensor} {fd : Int32} {size offset : UInt64}
    (h : (t.createDataFromFd env fd size offset).1 = .success) :
    t.AcceptsFd env fd size offset := by
  unfold UserTensor.createDataFromFd at h
  split at h
  · cases h
  rename_i hnew
  split at h
  · cases h
  rename_i tensorDesc hdesc
  split at h
  · rename_i byteSize hbytes
    split at h
    · cases h
    rename_i hfd
    split at h
    · cases h
    rename_i hsize
    split at h
    · cases h
    rename_i hoffset
    split at h
    · cases h
    rename_i hroom
    split at h
    · cases h
    · rename_i address hmmap
      exact ⟨Option.not_isSome_iff_eq_none.mp hnew,
        ⟨tensorDesc, byteSize, hdesc, hbytes, UInt64.not_lt.mp hroom⟩, Int32.not_lt.mp hfd, hsize,
        UInt64.not_lt.mp hoffset, by rw [hmmap]; rfl⟩
  · rename_i hne hbytes
    exact absurd h hne

/-- A call that does not come to `AllocateMemory`. -/
theorem performed_unasked (hunasked : ∀ env length, ¬ Asks s.tensor call env length) :
    Performed s call (s.perform call) := by
  have hstrands : ¬ Strands s.tensor call := fun ⟨env, length, h, _⟩ => hunasked env length h
  have hkept : ∀ ret, Performed s call (ret, s) := .unchanged hstrands
  cases call with
  | setTensorDesc created tensorDesc =>
    refine .kept hstrands ?_
    unfold UserTensor.setTensorDesc
    split <;> exact ⟨rfl, rfl, rfl, rfl, rfl⟩
  | changeDesc tensorDesc => exact .kept hstrands ⟨rfl, rfl, rfl, rfl, rfl⟩
  | createData env =>
    show Performed s _ (s.createData env)
    unfold createData
    split
    · exact hkept _
    rename_i hnew
    split
    · exact hkept _
    rename_i tensorDesc hdesc
    split
    · rename_i byteSize hbytes
      split
      · exact hkept _
      · rename_i hle
        exact absurd (.ofDesc (Option.not_isSome_iff_eq_none.mp hnew) hdesc hbytes
          (UInt64.not_lt.mp hle)) (hunasked env byteSize)
    · exact hkept _
  | createDataOfSize env size =>
    show Performed s _ (s.createDataOfSize env size)
    unfold createDataOfSize
    split
    · exact hkept _
    rename_i hnew
    split
    · exact hkept _
    rename_i tensorDesc hdesc
    split
    · exact hkept _
    rename_i hle
    split
    · rename_i byteSize hbytes
      split
      · exact hkept _
      · rename_i hroom
        exact absurd (.ofSize (Option.not_isSome_iff_eq_none.mp hnew) hdesc hbytes
          (UInt64.not_lt.mp hroom) (UInt64.not_lt.mp hle)) (hunasked env size)
    · exact hkept _
  | createDataFromFd env fd size offset =>
    show Performed s _ (s.createDataFromFd env fd size offset)
    unfold createDataFromFd
    by_cases haccepts : s.tensor.AcceptsFd env fd size offset
    · rw [UserTensor.createDataFromFd_eq haccepts]
      exact .user hstrands rfl
    · have hsame := UserTensor.createDataFromFd_refused haccepts
      have hret := mt createDataFromFd_accepts haccepts
      generalize s.tensor.createDataFromFd env fd size offset = answer at hsame hret
      obtain ⟨ret, tensor⟩ := answer
      cases hsame
      split
      · rename_i heq
        cases heq
        exact absurd rfl hret
      · rename_i heq
        cases heq
        exact hkept _

/-- **How any call ends.** -/
theorem performed (s : TrackedTensor) (call : Call) : Performed s call (s.perform call) := by
  by_cases hasks : ∃ env length, Asks s.tensor call env length
  · obtain ⟨env, length, hasks⟩ := hasks
    rw [perform_asks hasks]
    generalize hanswer : s.createOwnData env length = answer
    cases hanswer ▸ createOwnData_allocated hasks.new env length with
    | refused hret hloses =>
      exact .unchanged (mt hasks.strands_iff.mp hloses) _
    | lost hret hloses => exact .lost hret (hasks.strands_iff.mpr hloses)
    | mapped hloses _ huser => exact .own (mt hasks.strands_iff.mp hloses) huser
  · exact performed_unasked fun env length h => hasks ⟨env, length, h⟩

/-! ## Runs -/

/-- A call that fails leaves the data of the tensor as it was, and no buffer that was handed
out to it. -/
structure LeavesNothing (s s' : TrackedTensor) : Prop where
  data : s'.tensor.data = s.tensor.data
  fd : s'.tensor.fd = s.tensor.fd
  size : s'.tensor.size = s.tensor.size
  offset : s'.tensor.offset = s.tensor.offset
  buffers : ∀ buffer, s.allocated ≤ buffer → buffer < s'.allocated → some buffer ∈ s'.released

/-- Nothing was given back so far, and what the data is in has a number. -/
structure Held (s : TrackedTensor) : Prop where
  released : s.released = []
  unmapped : s.unmapped = []
  buffer : s.tensor.data.isSome = true → s.tensor.isUserData = false → s.buffer.isSome = true
  mapping : s.tensor.data.isSome = true → s.mapping.isSome = true

theorem held_new : Held {} :=
  ⟨rfl, rfl, nofun, nofun⟩

/-- **Steps** hold what they got. -/
theorem Held.step (hs : Held s) (h : s.step call = .ok s') : Held s' := by
  cases h
  generalize hanswer : s.perform call = answer
  cases hanswer ▸ performed s call with
  | kept _ hsame =>
    refine ⟨hs.released, hs.unmapped, fun hdata huser => ?_, fun hdata => ?_⟩
    · exact hs.buffer (hsame.data ▸ hdata) (hsame.isUserData ▸ huser)
    · exact hs.mapping (hsame.data ▸ hdata)
  | lost => exact ⟨hs.released, hs.unmapped, hs.buffer, hs.mapping⟩
  | own => exact ⟨hs.released, hs.unmapped, fun _ _ => rfl, fun _ => rfl⟩
  | user _ huser =>
    refine ⟨hs.released, hs.unmapped, fun _ hown => ?_, fun _ => rfl⟩
    cases huser.symm.trans hown

/-- **One call**: it leaves nothing behind exactly if no buffer is handed out to it in vain. -/
theorem leavesNothing_iff (hs : Held s) :
    ((s.perform call).1 ≠ .success → LeavesNothing s (s.perform call).2) ↔
      ¬ Strands s.tensor call := by
  generalize hanswer : s.perform call = answer
  cases hanswer ▸ performed s call with
  | kept hstrands hsame =>
    refine iff_of_true (fun _ => ⟨hsame.data, hsame.fd, hsame.size, hsame.offset, ?_⟩) hstrands
    exact fun buffer hle hlt => absurd hlt (Nat.not_lt.mpr hle)
  | lost hret hstrands =>
    refine iff_of_false (fun hleaves => ?_) (not_not.mpr hstrands)
    have hmem := (hleaves hret).buffers s.allocated le_rfl (Nat.lt_succ_self _)
    rw [show ({ s with allocated := s.allocated + 1 } : TrackedTensor).released = [] from
      hs.released] at hmem
    cases hmem
  | own hstrands => exact iff_of_true (fun hret => absurd rfl hret) hstrands
  | user hstrands => exact iff_of_true (fun hret => absurd rfl hret) hstrands

/-- Every buffer and every mapping is given back once at most, and nothing else is. -/
structure ReleasedOnce (s : TrackedTensor) : Prop where
  buffers : s.released.Nodup
  mappings : s.unmapped.Nodup
  onlyBuffers : none ∉ s.released
  onlyMappings : none ∉ s.unmapped

/-- What the destructor gives back. -/
theorem destroy_records (s : TrackedTensor) (env : DestroyEnv) :
    ((s.destroy env).unmapped = s.unmapped ∧ (s.destroy env).released = s.released) ∨
    (s.tensor.data.isSome = true ∧ (s.destroy env).unmapped = s.unmapped ++ [s.mapping] ∧
      ((s.destroy env).released = s.released ∨
        s.tensor.isUserData = false ∧
          (s.destroy env).released = s.released ++ [s.buffer])) := by
  unfold destroy releaseMemory
  dsimp only
  split
  · exact Or.inl ⟨rfl, rfl⟩
  rename_i hdata
  have hsome : s.tensor.data.isSome = true := by
    cases hnew : s.tensor.data with
    | none => exact absurd (Or.inr (by rw [hnew]; rfl)) hdata
    | some address => rfl
  split
  · exact Or.inl ⟨rfl, rfl⟩
  split
  · exact Or.inr ⟨hsome, rfl, Or.inl rfl⟩
  split
  · exact Or.inr ⟨hsome, rfl, Or.inl rfl⟩
  rename_i huser
  split
  · exact Or.inr ⟨hsome, rfl, Or.inl rfl⟩
  split
  · exact Or.inr ⟨hsome, rfl, Or.inl rfl⟩
  split
  · exact Or.inr ⟨hsome, rfl, Or.inr ⟨Bool.eq_false_iff.mpr huser, rfl⟩⟩
  · exact Or.inr ⟨hsome, rfl, Or.inr ⟨Bool.eq_false_iff.mpr huser, rfl⟩⟩

/-- **Nothing is given back twice**, and no file of the user to the device. -/
theorem Held.released_once (hs : Held s) (env : DestroyEnv) : ReleasedOnce (s.destroy env) := by
  rcases destroy_records s env with ⟨hunmapped, hreleased⟩ |
    ⟨hdata, hunmapped, hreleased | ⟨huser, hreleased⟩⟩
  · rw [hs.unmapped] at hunmapped
    rw [hs.released] at hreleased
    constructor <;> simp [hunmapped, hreleased]
  · obtain ⟨mapping, hmapping⟩ := Option.isSome_iff_exists.mp (hs.mapping hdata)
    rw [hs.unmapped, hmapping] at hunmapped
    rw [hs.released] at hreleased
    constructor <;> simp [hunmapped, hreleased]
  · obtain ⟨mapping, hmapping⟩ := Option.isSome_iff_exists.mp (hs.mapping hdata)
    obtain ⟨buffer, hbuffer⟩ := Option.isSome_iff_exists.mp (hs.buffer hdata huser)
    rw [hs.unmapped, hmapping] at hunmapped
    rw [hs.released, hbuffer] at hreleased
    constructor <;> simp [hunmapped, hreleased]

/-- The memory of a tensor is neither leaked by a call that fails nor given back twice,
whenever the tensor is destroyed. -/
def MemoryKept (calls : List Call) : Prop :=
  Run.Meets step (fun s call => (s.perform call).1 ≠ .success →
    LeavesNothing s (s.perform call).2) {} calls ∧
  ∀ s, Run.exec step {} calls = .ok s → ∀ env, ReleasedOnce (s.destroy env)

/-- **When the memory of a tensor is kept**: no buffer is handed out that has no descriptor or
cannot be mapped. -/
theorem memoryKept_iff (calls : List Call) :
    MemoryKept calls ↔ Run.Meets step (fun s call => ¬ Strands s.tensor call) {} calls := by
  have hheld : ∀ s call s', Held s → step s call = .ok s' → Held s' :=
    fun _ _ _ hs hstep => hs.step hstep
  have honce : ∀ s, Run.exec step {} calls = .ok s → ∀ env, ReleasedOnce (s.destroy env) :=
    fun s hexec env => (Run.exec_invariant hheld held_new hexec).released_once env
  rw [MemoryKept, and_iff_left honce]
  exact Run.meets_congr_of_invariant (P := Held) (fun _ _ hs => leavesNothing_iff hs)
    (fun s call s' hs _ hstep => hheld s call s' hs hstep) held_new calls

end Performed

/-- A device that hands out a buffer, which cannot be mapped. -/
def unmappable : TensorEnv where
  allocateBuffer := (.success, 5)

/-- The description is set, and the memory of the device cannot be mapped. -/
theorem unmapped_buffer_left :
    (((({} : TrackedTensor).perform (.setTensorDesc true (.floats 4))).2).perform
        (.createData unmappable)).1 = .memoryError ∧
      ¬ MemoryKept [.setTensorDesc true (.floats 4), .createData unmappable] := by
  refine ⟨by decide, fun hkept => ?_⟩
  have hcall := (hkept.1.2 _ rfl).1
  have hleaves := hcall (by decide)
  have hmem := hleaves.buffers 0 (by decide) (by decide)
  exact absurd hmem (by decide)

end TrackedTensor

end NNRt
