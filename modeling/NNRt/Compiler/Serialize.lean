import NNRt.Core.NNTensor
import NNRt.Cache.Json
import NNRt.Lib.LittleEndian

/-!
# Tensor descriptions as bytes

`SerializeTensorsToBuffer` and `DeserializedTensorsFromBuffer`, with which the
compiler and the executor store the input and output descriptions of a model
next to its cache. One record is: data type, format and tensor type (4 bytes
each), the number of dimensions (8 bytes), the dimensions (4 bytes each), and
the name with its `NUL`; numbers are little-endian.

- `serializeTensorsToBuffer_eq_ok_iff`: the writer succeeds exactly when
  every description is `Writable`.
- `deserialize_serialize`: **the reader inverts the writer**, also
  (`mapped_serialize`) when it may read on to the end of a mapped page.
-/

namespace NNRt

/-- A description with its tensor type, which is not checked anywhere on the
way through a file and so is a number here. -/
abbrev TensorDescPair := TensorDesc × UInt32

/-- `SerializedTensorDesc`, as read from a buffer. -/
structure SerializedTensorDesc where
  dataType : UInt32
  format : UInt32
  tensorType : UInt32
  shape : List Int32
  name : CString

/-- `strcpy_s(dest, destMax, src)` with room for exactly the string. -/
def strcpySucceeds (destMax : Nat) : Bool :=
  destMax ≤ securecStringMaxLen

/-! ## Writing -/

/-- A 32-bit number. -/
def encodeU32 (x : UInt32) : Bytes := LittleEndian.encode 4 x.toNat

/-- The dimensions of a shape. -/
def encodeShape (shape : List Int32) : Bytes :=
  shape.flatMap fun dim => encodeU32 dim.toUInt32

/-- One record. -/
def encodeDesc (desc : TensorDescPair) : Bytes :=
  encodeU32 desc.1.dataType.code ++ encodeU32 desc.1.format.code ++ encodeU32 desc.2 ++
    LittleEndian.encode 8 desc.1.shape.length ++ encodeShape desc.1.shape ++
    (desc.1.name.val ++ [0])

/-- The copies of one record that can fail: the dimensions and the name. -/
def serializeDesc (desc : TensorDescPair) : Except ReturnCode Bytes :=
  -- `memcpy_s` also refuses to copy no dimensions at all.
  if !memcpySucceeds (desc.1.shape.length * 4) then .error .memoryError
  else if !strcpySucceeds (desc.1.name.val.length + 1) then .error .memoryError
  else .ok (encodeDesc desc)

/-- `SerializeTensorsToBuffer`. -/
def serializeTensorsToBuffer : List TensorDescPair → Except ReturnCode Bytes
  | [] => .ok []
  | desc :: descs => do
    let record ← serializeDesc desc
    let records ← serializeTensorsToBuffer descs
    return record ++ records

/-! ## Reading -/

/-- Read `n` bytes at `ptr`; the pointer is not compared with the end. -/
def readBytes (n : Nat) (buffer : Bytes) : Except Stop (Bytes × Bytes) :=
  if n ≤ buffer.length then .ok (buffer.take n, buffer.drop n)
  else .error (.fault .outOfBounds)

/-- A 32-bit number at `ptr`. -/
def readU32At (buffer : Bytes) : Except Stop (UInt32 × Bytes) := do
  let (field, buffer) ← readBytes 4 buffer
  return (UInt32.ofNat (LittleEndian.decode field), buffer)

/-- The dimensions at `ptr`. -/
def readShape : Nat → Bytes → Except Stop (List Int32 × Bytes)
  | 0, buffer => .ok ([], buffer)
  | n + 1, buffer => do
    let (dim, buffer) ← readU32At buffer
    let (dims, buffer) ← readShape n buffer
    return (dim.toInt32 :: dims, buffer)

/-- `strlen` of the name at `ptr`, which runs past the end without a `NUL`. -/
def readName (buffer : Bytes) : Except Stop (CString × Bytes) :=
  match buffer.dropWhile (· ≠ 0) with
  | [] => .error (.fault .outOfBounds)
  | _ :: rest => .ok (cString buffer, rest)

/-- `new (std::nothrow) int32_t[n]` yields null for a length beyond this. -/
def arrayMaxLength : Nat := 2 ^ 61 - 1

/-- One round of the reading loop. -/
def readSerializedDesc (buffer : Bytes) : Except Stop (SerializedTensorDesc × Bytes) := do
  let (dataType, buffer) ← readU32At buffer
  let (format, buffer) ← readU32At buffer
  let (tensorType, buffer) ← readU32At buffer
  let (shapeNum, buffer) ← readBytes 8 buffer
  let shapeNum := LittleEndian.decode shapeNum
  if shapeNum > arrayMaxLength then throw (.ret .nullPtr)
  else if !memcpySucceeds (shapeNum * 4) then throw (.ret .memoryError)
  else
    let (shape, buffer) ← readShape shapeNum buffer
    let (name, buffer) ← readName buffer
    return (⟨dataType, format, tensorType, shape, name⟩, buffer)

/-- The loop `while (ptr < end)`; `fuel` bounds its rounds, each of which reads
at least one byte. -/
def readSerializedDescs : Nat → Bytes → Except Stop (List SerializedTensorDesc)
  | _, [] => .ok []
  -- Not reached from `buffer.length` rounds.
  | 0, _ => .ok []
  | fuel + 1, buffer => do
    let (desc, buffer) ← readSerializedDesc buffer
    let descs ← readSerializedDescs fuel buffer
    return desc :: descs

/-- `CopyToTensorDesc` into a fresh description. -/
def copyToTensorDesc (s : SerializedTensorDesc) : Except Stop TensorDesc :=
  match ({} : TensorDesc).setDataType (DataType.ofCode? s.dataType) with
  | (.success, desc) =>
    match desc.setFormat (Format.ofCode? s.format) with
    | (.success, desc) =>
      match desc.setShape s.shape with
      | (.success, desc) => .ok (desc.setName s.name)
      | (ret, _) => .error (.ret ret)
    | (ret, _) => .error (.ret ret)
  | (ret, _) => .error (.ret ret)

/-- `DeserializedTensorsFromBuffer`, on success with the descriptions it
appends to the empty list its callers pass. -/
def deserializedTensorsFromBuffer (buffer : Bytes) : Except Stop (List TensorDescPair) := do
  let serialized ← readSerializedDescs buffer.length buffer
  serialized.mapM fun s => do
    let desc ← copyToTensorDesc s
    return (desc, s.tensorType)

/-! ## Reading a mapped file -/

/-- The size of a page. -/
def pageSize : Nat := 4096

/-- What can be read behind a mapped file of this length: the rest of its last
page, which is filled with zeros. -/
def pageTail (length : Nat) : Bytes :=
  List.replicate ((pageSize - length % pageSize) % pageSize) 0

/-- The loop `while (ptr < end)` over a buffer whose last `behind` bytes lie behind
`end`; a round may read them, but does not begin there. -/
def readMappedDescs (behind : Nat) : Nat → Bytes → Except Stop (List SerializedTensorDesc)
  -- Not reached from as many rounds as there are bytes before `end`.
  | 0, _ => .ok []
  | fuel + 1, buffer =>
    if buffer.length ≤ behind then .ok []
    else do
      let (desc, buffer) ← readSerializedDesc buffer
      let descs ← readMappedDescs behind fuel buffer
      return desc :: descs

/-- `DeserializedTensorsFromBuffer` on a file that `ReadCacheModelFile` has mapped. -/
def deserializedTensorsFromMapped (content : Bytes) : Except Stop (List TensorDescPair) := do
  let behind := pageTail content.length
  let serialized ← readMappedDescs behind.length content.length (content ++ behind)
  serialized.mapM fun s => do
    let desc ← copyToTensorDesc s
    return (desc, s.tensorType)

/-! ## Round trip -/

/-- What `SerializeTensorsToBuffer` can write: a description with a shape, and
with a name that `strcpy_s` accepts. -/
structure Writable (desc : TensorDescPair) : Prop where
  shape : desc.1.shape ≠ []
  name : desc.1.name.val.length + 1 ≤ securecStringMaxLen

theorem serializeDesc_eq_ok_iff {desc : TensorDescPair} {record : Bytes} :
    serializeDesc desc = .ok record ↔ Writable desc ∧ record = encodeDesc desc := by
  have hle := desc.1.shape_le
  simp only [shapeMaxNum] at hle
  have hpos : memcpySucceeds (desc.1.shape.length * 4) = true ↔ desc.1.shape ≠ [] := by
    rw [← List.length_pos_iff]
    simp only [memcpySucceeds, decide_eq_true_eq]
    omega
  unfold serializeDesc
  by_cases hshape : desc.1.shape = []
  · have hfail : memcpySucceeds (desc.1.shape.length * 4) = false := by
      rw [hshape]
      rfl
    rw [hfail]
    constructor
    · intro h
      cases h
    · rintro ⟨h, -⟩
      exact absurd hshape h.shape
  rw [hpos.mpr hshape]
  by_cases hname : desc.1.name.val.length + 1 ≤ securecStringMaxLen
  · simp only [Bool.not_true, Bool.false_eq_true, if_false, strcpySucceeds, hname, decide_true]
    constructor
    · intro h
      cases h
      exact ⟨⟨hshape, hname⟩, rfl⟩
    · rintro ⟨-, rfl⟩
      rfl
  · simp only [Bool.not_true, Bool.false_eq_true, if_false, strcpySucceeds, hname, decide_false,
      Bool.not_false, if_true]
    constructor
    · intro h
      cases h
    · rintro ⟨h, -⟩
      exact absurd h.name hname

/-- **The writer** succeeds exactly on writable descriptions, and then has
written one record after the other. -/
theorem serializeTensorsToBuffer_eq_ok_iff {descs : List TensorDescPair} {buffer : Bytes} :
    serializeTensorsToBuffer descs = .ok buffer ↔
      (∀ desc ∈ descs, Writable desc) ∧ buffer = descs.flatMap encodeDesc := by
  induction descs generalizing buffer with
  | nil =>
    constructor
    · intro h
      cases h
      exact ⟨by simp, rfl⟩
    · rintro ⟨-, rfl⟩
      rfl
  | cons desc descs ih =>
    rw [serializeTensorsToBuffer]
    constructor
    · intro h
      cases hrecord : serializeDesc desc with
      | error ret =>
        rw [hrecord] at h
        cases h
      | ok record =>
        cases hrecords : serializeTensorsToBuffer descs with
        | error ret =>
          rw [hrecord, hrecords] at h
          cases h
        | ok records =>
          rw [hrecord, hrecords] at h
          cases h
          obtain ⟨hdesc, rfl⟩ := serializeDesc_eq_ok_iff.mp hrecord
          obtain ⟨hdescs, rfl⟩ := ih.mp hrecords
          refine ⟨?_, rfl⟩
          intro d hd
          rcases List.mem_cons.mp hd with rfl | hd
          · exact hdesc
          · exact hdescs d hd
    · rintro ⟨h, rfl⟩
      have hdesc := serializeDesc_eq_ok_iff.mpr ⟨h desc List.mem_cons_self, rfl⟩
      have hdescs := ih.mpr ⟨fun d hd => h d (List.mem_cons_of_mem _ hd), rfl⟩
      rw [hdesc, hdescs]
      rfl

theorem serializeTensorsToBuffer_eq_error {descs : List TensorDescPair} {ret : ReturnCode}
    (h : serializeTensorsToBuffer descs = .error ret) : ret = .memoryError := by
  induction descs with
  | nil => cases h
  | cons desc descs ih =>
    rw [serializeTensorsToBuffer] at h
    cases hrecord : serializeDesc desc with
    | error ret' =>
      rw [hrecord] at h
      cases h
      unfold serializeDesc at hrecord
      split at hrecord
      · cases hrecord
        rfl
      split at hrecord
      · cases hrecord
        rfl
      · cases hrecord
    | ok record =>
      cases hrecords : serializeTensorsToBuffer descs with
      | error ret' =>
        rw [hrecord, hrecords] at h
        cases h
        exact ih hrecords
      | ok records =>
        rw [hrecord, hrecords] at h
        cases h

theorem readBytes_append {n : Nat} {field : Bytes} (h : field.length = n) (rest : Bytes) :
    readBytes n (field ++ rest) = .ok (field, rest) := by
  subst h
  simp [readBytes]

theorem readU32At_encode (x : UInt32) (rest : Bytes) :
    readU32At (encodeU32 x ++ rest) = .ok (x, rest) := by
  have hx : x.toNat < 256 ^ 4 := x.toNat_lt
  rw [readU32At, encodeU32, readBytes_append (LittleEndian.length_encode 4 x.toNat), ok_bind]
  show Except.ok (UInt32.ofNat (LittleEndian.decode (LittleEndian.encode 4 x.toNat)), rest) = _
  rw [LittleEndian.decode_encode hx, UInt32.ofNat_toNat]

theorem readShape_encode (shape : List Int32) (rest : Bytes) :
    readShape shape.length (encodeShape shape ++ rest) = .ok (shape, rest) := by
  induction shape with
  | nil => rfl
  | cons dim dims ih =>
    have hdim : encodeShape (dim :: dims) ++ rest
        = encodeU32 dim.toUInt32 ++ (encodeShape dims ++ rest) := by
      simp [encodeShape]
    rw [hdim, List.length_cons, readShape, readU32At_encode, ok_bind]
    simp only [ih, ok_bind, pure_eq_ok, Int32.toInt32_toUInt32]

theorem readName_encode (name : CString) (rest : Bytes) :
    readName (name.val ++ 0 :: rest) = .ok (name, rest) := by
  have hne : ∀ b ∈ name.val, (decide (b ≠ 0)) = true := by
    intro b hb
    have h0 : b ≠ 0 := fun h0 => name.property (h0 ▸ hb)
    simpa using h0
  have hdrop : (name.val ++ 0 :: rest).dropWhile (· ≠ 0) = 0 :: rest := by
    rw [List.dropWhile_append_of_pos hne]
    simp
  have hcopy : cString (name.val ++ 0 :: rest) = name := by
    apply Subtype.ext
    show (name.val ++ 0 :: rest).takeWhile (· ≠ 0) = name.val
    rw [List.takeWhile_append_of_pos hne]
    simp
  simp only [readName, hdrop, hcopy]

/-- The record of a writable description is read back field by field. -/
theorem readSerializedDesc_encode {desc : TensorDescPair} (h : Writable desc) (rest : Bytes) :
    readSerializedDesc (encodeDesc desc ++ rest)
      = .ok (⟨desc.1.dataType.code, desc.1.format.code, desc.2, desc.1.shape, desc.1.name⟩,
          rest) := by
  have hle := desc.1.shape_le
  simp only [shapeMaxNum] at hle
  have hpos : 0 < desc.1.shape.length := List.length_pos_iff.mpr h.shape
  have hnum : LittleEndian.decode (LittleEndian.encode 8 desc.1.shape.length)
      = desc.1.shape.length := LittleEndian.decode_encode (by omega)
  have halloc : ¬ desc.1.shape.length > arrayMaxLength := by
    simp only [arrayMaxLength]
    omega
  have hmemcpy : memcpySucceeds (desc.1.shape.length * 4) = true := by
    simp only [memcpySucceeds, decide_eq_true_eq]
    omega
  have hsplit : encodeDesc desc ++ rest
      = encodeU32 desc.1.dataType.code ++ (encodeU32 desc.1.format.code ++ (encodeU32 desc.2 ++
          (LittleEndian.encode 8 desc.1.shape.length ++ (encodeShape desc.1.shape ++
            (desc.1.name.val ++ 0 :: rest))))) := by
    simp [encodeDesc]
  rw [hsplit, readSerializedDesc]
  simp only [readU32At_encode, ok_bind, readBytes_append (LittleEndian.length_encode 8 _), hnum,
    halloc, if_false, hmemcpy, Bool.not_true, Bool.false_eq_true, readShape_encode,
    readName_encode, pure_eq_ok]

/-- A description survives the copy into a record and back. -/
theorem copyToTensorDesc_encode {desc : TensorDescPair} (h : Writable desc) :
    copyToTensorDesc ⟨desc.1.dataType.code, desc.1.format.code, desc.2, desc.1.shape, desc.1.name⟩
      = .ok desc.1 := by
  simp only [copyToTensorDesc, DataType.ofCode?_code, Format.ofCode?_code, TensorDesc.setDataType,
    TensorDesc.setFormat, TensorDesc.setShape_eq h.shape desc.1.shape_le, TensorDesc.setName]

theorem encodeDesc_length_pos (desc : TensorDescPair) : 0 < (encodeDesc desc).length := by
  simp only [encodeDesc, List.length_append, List.length_cons]
  omega

/-- The reading loop on a written buffer, with any sufficient bound. -/
theorem readSerializedDescs_encode {descs : List TensorDescPair}
    (h : ∀ desc ∈ descs, Writable desc) :
    ∀ fuel, (descs.flatMap encodeDesc).length ≤ fuel →
      readSerializedDescs fuel (descs.flatMap encodeDesc)
        = .ok (descs.map fun desc =>
            ⟨desc.1.dataType.code, desc.1.format.code, desc.2, desc.1.shape, desc.1.name⟩) := by
  induction descs with
  | nil =>
    intro fuel _
    simp [readSerializedDescs]
  | cons desc descs ih =>
    intro fuel hfuel
    have hpos := encodeDesc_length_pos desc
    rw [List.flatMap_cons] at hfuel ⊢
    rw [List.length_append] at hfuel
    obtain ⟨fuel, rfl⟩ : ∃ n, fuel = n + 1 := ⟨fuel - 1, by omega⟩
    have hread := readSerializedDesc_encode (h desc List.mem_cons_self) (descs.flatMap encodeDesc)
    have hrest := ih (fun d hd => h d (List.mem_cons_of_mem _ hd)) fuel (by omega)
    have hne : encodeDesc desc ++ descs.flatMap encodeDesc ≠ [] := by
      intro hnil
      have hlen := congrArg List.length hnil
      simp only [List.length_append, List.length_nil] at hlen
      omega
    rw [readSerializedDescs]
    · rw [hread, ok_bind]
      simp only [hrest, ok_bind, pure_eq_ok, List.map_cons]
    · exact hne

/-- The copying loop on records of writable descriptions. -/
theorem copyToTensorDescs_encode {descs : List TensorDescPair}
    (h : ∀ desc ∈ descs, Writable desc) :
    (descs.map fun desc => (⟨desc.1.dataType.code, desc.1.format.code, desc.2, desc.1.shape,
        desc.1.name⟩ : SerializedTensorDesc)).mapM
      (fun s => do
        let desc ← copyToTensorDesc s
        return (desc, s.tensorType)) = .ok descs := by
  induction descs with
  | nil => rfl
  | cons desc descs ih =>
    rw [List.map_cons, List.mapM_cons, ih fun d hd => h d (List.mem_cons_of_mem _ hd),
      copyToTensorDesc_encode (h desc List.mem_cons_self)]
    rfl

/-- **The reader inverts the writer.** -/
theorem deserialize_serialize {descs : List TensorDescPair} {buffer : Bytes}
    (h : serializeTensorsToBuffer descs = .ok buffer) :
    deserializedTensorsFromBuffer buffer = .ok descs := by
  obtain ⟨hwritable, rfl⟩ := serializeTensorsToBuffer_eq_ok_iff.mp h
  rw [deserializedTensorsFromBuffer,
    readSerializedDescs_encode hwritable _ (Nat.le_refl _), ok_bind]
  exact copyToTensorDescs_encode hwritable

/-! ## The two readers -/

section Mapped

variable {α β : Type} {r r' : Except Stop (α × Bytes)}

/-- `r'` reads on behind the buffer that `r` reads, with the same result unless `r`
leaves the buffer. -/
def ReadsOn (behind : Bytes) (r r' : Except Stop (α × Bytes)) : Prop :=
  match r with
  | .ok (x, rest) => r' = .ok (x, rest ++ behind)
  | .error (.ret ret) => r' = .error (.ret ret)
  | .error (.fault _) => True

theorem ReadsOn.bind {behind : Bytes} {f : α × Bytes → Except Stop (β × Bytes)}
    (h : ReadsOn behind r r') (hf : ∀ x rest, ReadsOn behind (f (x, rest)) (f (x, rest ++ behind))) :
    ReadsOn behind (r >>= f) (r' >>= f) := by
  cases r with
  | ok read =>
    obtain ⟨x, rest⟩ := read
    rw [show r' = .ok (x, rest ++ behind) from h]
    exact hf x rest
  | error stop =>
    cases stop with
    | ret ret =>
      rw [show r' = .error (.ret ret) from h]
      exact rfl
    | fault fault => trivial

theorem readBytes_readsOn (behind : Bytes) (n : Nat) (buffer : Bytes) :
    ReadsOn behind (readBytes n buffer) (readBytes n (buffer ++ behind)) := by
  unfold readBytes
  by_cases h : n ≤ buffer.length
  · rw [if_pos h, if_pos (by rw [List.length_append]; omega), List.take_append_of_le_length h,
      List.drop_append_of_le_length h]
    exact rfl
  · rw [if_neg h]
    trivial

theorem readU32At_readsOn (behind buffer : Bytes) :
    ReadsOn behind (readU32At buffer) (readU32At (buffer ++ behind)) :=
  (readBytes_readsOn behind 4 buffer).bind fun _ _ => rfl

theorem readShape_readsOn (behind : Bytes) (n : Nat) (buffer : Bytes) :
    ReadsOn behind (readShape n buffer) (readShape n (buffer ++ behind)) := by
  induction n generalizing buffer with
  | zero => exact rfl
  | succ n ih =>
    refine (readU32At_readsOn behind buffer).bind fun dim rest => ?_
    exact (ih rest).bind fun dims rest => rfl

theorem readName_readsOn (behind buffer : Bytes) :
    ReadsOn behind (readName buffer) (readName (buffer ++ behind)) := by
  unfold readName
  cases hdrop : buffer.dropWhile (· ≠ 0) with
  | nil => trivial
  | cons b rest =>
    -- The name ends within the buffer.
    have hne : (buffer.dropWhile (· ≠ 0)).isEmpty = false := by
      rw [hdrop]
      rfl
    have hmem : ¬ ∀ b ∈ buffer, (decide (b ≠ 0)) = true := by
      intro hall
      rw [List.dropWhile_eq_nil_iff.mpr hall] at hdrop
      cases hdrop
    have hname : cString (buffer ++ behind) = cString buffer := by
      apply Subtype.ext
      show (buffer ++ behind).takeWhile (· ≠ 0) = buffer.takeWhile (· ≠ 0)
      rw [List.takeWhile_append, if_neg]
      intro hlen
      apply hmem
      have htake := List.IsPrefix.eq_of_length (List.takeWhile_prefix _) hlen
      exact List.takeWhile_eq_self_iff.mp htake
    rw [List.dropWhile_append, hne, if_neg (by decide), hdrop, hname]
    exact rfl

theorem readSerializedDesc_readsOn (behind buffer : Bytes) :
    ReadsOn behind (readSerializedDesc buffer) (readSerializedDesc (buffer ++ behind)) := by
  refine (readU32At_readsOn behind buffer).bind fun dataType rest => ?_
  refine (readU32At_readsOn behind rest).bind fun format rest => ?_
  refine (readU32At_readsOn behind rest).bind fun tensorType rest => ?_
  refine (readBytes_readsOn behind 8 rest).bind fun shapeNum rest => ?_
  dsimp only
  split
  · exact rfl
  split
  · exact rfl
  refine (readShape_readsOn behind _ rest).bind fun shape rest => ?_
  exact (readName_readsOn behind rest).bind fun name rest => rfl

/-- The loop reads on as its rounds do. -/
theorem readMappedDescs_of_ok {behind : Bytes} {fuel : Nat} {buffer : Bytes}
    {serialized : List SerializedTensorDesc} (h : readSerializedDescs fuel buffer = .ok serialized) :
    readMappedDescs behind.length fuel (buffer ++ behind) = .ok serialized := by
  induction fuel generalizing buffer serialized with
  | zero =>
    cases buffer <;> exact h
  | succ fuel ih =>
    cases buffer with
    | nil =>
      cases h
      exact if_pos (Nat.le_refl _)
    | cons b bytes =>
      have hread := readSerializedDesc_readsOn behind (b :: bytes)
      change (do
        let (desc, buffer) ← readSerializedDesc (b :: bytes)
        let descs ← readSerializedDescs fuel buffer
        return desc :: descs) = .ok serialized at h
      rw [readMappedDescs, if_neg (by simp only [List.length_append, List.length_cons]; omega)]
      obtain ⟨⟨desc, rest⟩, hdesc, h⟩ := bind_eq_ok h
      obtain ⟨descs, hdescs, h⟩ := bind_eq_ok h
      cases h
      rw [hdesc] at hread
      rw [show readSerializedDesc (b :: bytes ++ behind) = .ok (desc, rest ++ behind) from hread,
        ok_bind]
      dsimp only
      rw [ih hdescs]
      rfl

/-- What is read without leaving the buffer is read from the mapped file. -/
theorem deserializedTensorsFromMapped_of_ok {content : Bytes} {descs : List TensorDescPair}
    (h : deserializedTensorsFromBuffer content = .ok descs) :
    deserializedTensorsFromMapped content = .ok descs := by
  obtain ⟨serialized, hread, hcopy⟩ := bind_eq_ok h
  rw [deserializedTensorsFromMapped, readMappedDescs_of_ok hread, ok_bind]
  exact hcopy

/-- **The reader of the mapped file inverts the writer.** -/
theorem mapped_serialize {descs : List TensorDescPair} {buffer : Bytes}
    (h : serializeTensorsToBuffer descs = .ok buffer) :
    deserializedTensorsFromMapped buffer = .ok descs :=
  deserializedTensorsFromMapped_of_ok (deserialize_serialize h)

end Mapped

/-- Only the empty list is written as an empty buffer. -/
theorem flatMap_encodeDesc_eq_nil_iff {descs : List TensorDescPair} :
    descs.flatMap encodeDesc = [] ↔ descs = [] := by
  cases descs with
  | nil => simp
  | cons desc descs =>
    have hpos := encodeDesc_length_pos desc
    simp only [List.flatMap_cons, List.append_eq_nil_iff, reduceCtorEq, iff_false]
    rintro ⟨hnil, -⟩
    rw [hnil] at hpos
    exact absurd hpos (by decide)

end NNRt
