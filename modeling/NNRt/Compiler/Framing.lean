import NNRt.Compiler.Serialize
import NNRt.Lib.ReadLoop

/-!
# Where the records of a buffer end

`DeserializedTensorsFromBuffer` compares its pointer with the end of the buffer only
between two records. Inside a record it follows the number of dimensions and the name
wherever they lead.

- `deserializeInto`: the function as the source writes it, with the loops and with the list
  it leaves behind; `deserializeInto_ends`: it ends as `deserializedTensorsFromBuffer` does.
- `deserializes_iff`: **it reads inside the buffer exactly if the buffer is whole records,
  up to one whose number of dimensions is refused.**
- `serialize_roundTrip`: **what `SerializeTensorsToBuffer` writes is read back**, up to the
  last byte; the size it computes is the size it writes.
-/

namespace NNRt

/-! ## The loops of the source -/

/-- The loop over the records. -/
def readLoop (fuel : Nat) (buffer : Bytes) :
    Option (Except Stop (ReadLoop.State UInt8 SerializedTensorDesc)) :=
  WhileLoop.run ReadLoop.guard (ReadLoop.body readSerializedDesc) fuel ⟨buffer, []⟩

/-- The loop that appends the descriptions; where one fails the list is cleared. -/
def copyLoop (tensorDescs : List TensorDescPair) :
    List SerializedTensorDesc → Except Fault (ReturnCode × List TensorDescPair)
  | [] => .ok (.success, tensorDescs)
  | s :: rest =>
    match copyToTensorDesc s with
    | .error (.fault f) => .error f
    | .error (.ret ret) => .ok (ret, [])
    | .ok desc => copyLoop (tensorDescs ++ [(desc, s.tensorType)]) rest

/-- `DeserializedTensorsFromBuffer` of the compiler and of the executor, with its code and
with the list it leaves behind. -/
def deserializeInto (fuel : Nat) (tensorDescs : List TensorDescPair) (buffer : Bytes) :
    Option (Except Fault (ReturnCode × List TensorDescPair)) :=
  match readLoop fuel buffer with
  | none => none
  | some (.error (.fault f)) => some (.error f)
  | some (.error (.ret ret)) => some (.ok (ret, tensorDescs))
  | some (.ok st) => some (copyLoop tensorDescs st.done)

/-! ## What a record takes -/

/-- A number of dimensions that is neither zero nor too much for `memcpy_s`. -/
def CountAccepted (shapeNum : Nat) : Prop :=
  0 < shapeNum ∧ shapeNum * 4 ≤ 2 ^ 31 - 1

/-- A record with all its dimensions and the end of its name. -/
inductive WholeRecord : Bytes → Prop
  | mk (fields count shape name : Bytes) (hfields : fields.length = 12)
    (hcount : count.length = 8) (haccepted : CountAccepted (LittleEndian.decode count))
    (hshape : shape.length = 4 * LittleEndian.decode count) (hname : 0 ∉ name) :
    WholeRecord (fields ++ count ++ (shape ++ (name ++ [0])))

/-- A record whose number of dimensions is refused, whatever lies behind. -/
inductive RefusedRecord : Bytes → Prop
  | mk (fields count rest : Bytes) (hfields : fields.length = 12) (hcount : count.length = 8)
    (hrefused : ¬ CountAccepted (LittleEndian.decode count)) :
    RefusedRecord (fields ++ count ++ rest)

section Reads

variable {n : Nat}

/-- Some bytes, or the end of the buffer before them. -/
theorem readBytes_cases (n : Nat) (s : Bytes) :
    readBytes n s = .error (.fault .outOfBounds) ∨
      ∃ field rest, field.length = n ∧ s = field ++ rest ∧ readBytes n s = .ok (field, rest) := by
  by_cases h : n ≤ s.length
  · refine Or.inr ⟨s.take n, s.drop n, List.length_take_of_le h, ?_, ?_⟩
    · exact (List.take_append_drop n s).symm
    · rw [readBytes, if_pos h]
  · exact Or.inl (by rw [readBytes, if_neg h])

theorem readU32At_append {field : Bytes} (h : field.length = 4) (rest : Bytes) :
    readU32At (field ++ rest) = .ok (UInt32.ofNat (LittleEndian.decode field), rest) := by
  rw [readU32At, readBytes_append h, ok_bind]
  rfl

theorem readU32At_cases (s : Bytes) :
    readU32At s = .error (.fault .outOfBounds) ∨
      ∃ field rest x, field.length = 4 ∧ s = field ++ rest ∧ readU32At s = .ok (x, rest) := by
  rcases readBytes_cases 4 s with hshort | ⟨field, rest, hfield, rfl, -⟩
  · exact Or.inl (by rw [readU32At, hshort, error_bind])
  · exact Or.inr ⟨field, rest, _, hfield, rfl, readU32At_append hfield rest⟩

theorem readShape_append {shape : Bytes} (h : shape.length = 4 * n) (rest : Bytes) :
    ∃ dims, readShape n (shape ++ rest) = .ok (dims, rest) := by
  induction n generalizing shape with
  | zero =>
    obtain rfl : shape = [] := List.length_eq_zero_iff.mp h
    exact ⟨[], rfl⟩
  | succ n ih =>
    have hdim : (shape.take 4).length = 4 := List.length_take_of_le (by omega)
    have hdims : (shape.drop 4).length = 4 * n := by
      rw [List.length_drop]
      omega
    obtain ⟨dims, hread⟩ := ih hdims
    refine ⟨(UInt32.ofNat (LittleEndian.decode (shape.take 4))).toInt32 :: dims, ?_⟩
    have hsplit : shape ++ rest = shape.take 4 ++ (shape.drop 4 ++ rest) := by
      rw [← List.append_assoc, List.take_append_drop]
    rw [hsplit, readShape, readU32At_append hdim, ok_bind]
    dsimp only
    rw [hread, ok_bind]
    rfl

theorem readShape_cases (n : Nat) (s : Bytes) :
    readShape n s = .error (.fault .outOfBounds) ∨
      ∃ shape rest dims, shape.length = 4 * n ∧ s = shape ++ rest ∧
        readShape n s = .ok (dims, rest) := by
  induction n generalizing s with
  | zero => exact Or.inr ⟨[], s, [], rfl, rfl, rfl⟩
  | succ n ih =>
    rw [readShape]
    rcases readU32At_cases s with h | ⟨field, rest, dim, hfield, rfl, h⟩
    · exact Or.inl (by rw [h, error_bind])
    rw [h, ok_bind]
    dsimp only
    rcases ih rest with h' | ⟨shape, rest, dims, hshape, rfl, h'⟩
    · exact Or.inl (by rw [h', error_bind])
    rw [h', ok_bind]
    refine Or.inr ⟨field ++ shape, rest, dim.toInt32 :: dims, ?_, ?_, rfl⟩
    · rw [List.length_append]
      omega
    · rw [List.append_assoc]

theorem readName_append {name : Bytes} (h : 0 ∉ name) (rest : Bytes) :
    readName (name ++ [0] ++ rest) = .ok (⟨name, h⟩, rest) := by
  rw [List.append_assoc, List.singleton_append]
  exact readName_encode ⟨name, h⟩ rest

theorem readName_cases (s : Bytes) :
    readName s = .error (.fault .outOfBounds) ∨
      ∃ name : CString, ∃ rest, s = name.val ++ [0] ++ rest ∧ readName s = .ok (name, rest) := by
  unfold readName
  split
  · exact Or.inl rfl
  · rename_i nul rest hdrop
    refine Or.inr ⟨cString s, rest, ?_, rfl⟩
    -- What ends the name is its first byte that is zero.
    have hnul : nul = 0 := by
      have hhead := List.head_dropWhile_not (p := fun b : UInt8 => decide (b ≠ 0)) (l := s)
        (by rw [hdrop]; exact List.cons_ne_nil _ _)
      simpa only [hdrop, List.head_cons, decide_eq_false_iff_not, ne_eq, not_not] using hhead
    calc s = s.takeWhile (· ≠ 0) ++ s.dropWhile (· ≠ 0) := (List.takeWhile_append_dropWhile).symm
      _ = s.takeWhile (· ≠ 0) ++ [0] ++ rest := by
        rw [hdrop, hnul, List.append_assoc, List.singleton_append]

end Reads

/-! ## One record -/

section Record

variable {s rest : Bytes}

/-- What follows the twenty bytes in front of a record's dimensions. -/
def readBody (dataType format tensorType : UInt32) (shapeNum : Nat) (buffer : Bytes) :
    Except Stop (SerializedTensorDesc × Bytes) :=
  if shapeNum > arrayMaxLength then .error (.ret .nullPtr)
  else if !memcpySucceeds (shapeNum * 4) then .error (.ret .memoryError)
  else do
    let (shape, buffer) ← readShape shapeNum buffer
    let (name, buffer) ← readName buffer
    return (⟨dataType, format, tensorType, shape, name⟩, buffer)

theorem countAccepted_iff {shapeNum : Nat} :
    CountAccepted shapeNum ↔
      ¬ shapeNum > arrayMaxLength ∧ memcpySucceeds (shapeNum * 4) = true := by
  unfold CountAccepted arrayMaxLength memcpySucceeds
  rw [decide_eq_true_eq]
  omega

/-- A record begins with twenty bytes, or it is cut off. -/
theorem readSerializedDesc_cases (s : Bytes) :
    readSerializedDesc s = .error (.fault .outOfBounds) ∨
      ∃ fields count rest : Bytes, ∃ dataType format tensorType,
        fields.length = 12 ∧ count.length = 8 ∧ s = fields ++ count ++ rest ∧
          readSerializedDesc s =
            readBody dataType format tensorType (LittleEndian.decode count) rest := by
  unfold readSerializedDesc
  rcases readU32At_cases s with h | ⟨f₁, s₁, dataType, hf₁, rfl, h₁⟩
  · exact Or.inl (by rw [h, error_bind])
  rw [h₁, ok_bind]
  dsimp only
  rcases readU32At_cases s₁ with h | ⟨f₂, s₂, format, hf₂, rfl, h₂⟩
  · exact Or.inl (by rw [h, error_bind])
  rw [h₂, ok_bind]
  dsimp only
  rcases readU32At_cases s₂ with h | ⟨f₃, s₃, tensorType, hf₃, rfl, h₃⟩
  · exact Or.inl (by rw [h, error_bind])
  rw [h₃, ok_bind]
  dsimp only
  rcases readBytes_cases 8 s₃ with h | ⟨count, rest, hcount, rfl, h₄⟩
  · exact Or.inl (by rw [h, error_bind])
  rw [h₄, ok_bind]
  refine Or.inr ⟨f₁ ++ f₂ ++ f₃, count, rest, dataType, format, tensorType, ?_, hcount, ?_, rfl⟩
  · simp only [List.length_append]
    omega
  · simp only [List.append_assoc]

/-- The twenty bytes in front of the dimensions. -/
theorem readSerializedDesc_header {fields count : Bytes} (hfields : fields.length = 12)
    (hcount : count.length = 8) : ∃ dataType format tensorType, ∀ rest,
      readSerializedDesc (fields ++ count ++ rest) =
        readBody dataType format tensorType (LittleEndian.decode count) rest := by
  obtain ⟨f₁, f₂, f₃, h₁, h₂, h₃, rfl⟩ : ∃ f₁ f₂ f₃ : Bytes,
      f₁.length = 4 ∧ f₂.length = 4 ∧ f₃.length = 4 ∧ fields = f₁ ++ (f₂ ++ f₃) := by
    refine ⟨fields.take 4, (fields.drop 4).take 4, (fields.drop 4).drop 4,
      List.length_take_of_le (by omega), ?_, ?_, ?_⟩
    · rw [List.length_take, List.length_drop]
      omega
    · rw [List.length_drop, List.length_drop]
      omega
    · rw [List.take_append_drop, List.take_append_drop]
  refine ⟨UInt32.ofNat (LittleEndian.decode f₁), UInt32.ofNat (LittleEndian.decode f₂),
    UInt32.ofNat (LittleEndian.decode f₃), fun rest => ?_⟩
  have hsplit : f₁ ++ (f₂ ++ f₃) ++ count ++ rest = f₁ ++ (f₂ ++ (f₃ ++ (count ++ rest))) := by
    simp only [List.append_assoc]
  rw [hsplit, readSerializedDesc, readU32At_append h₁, ok_bind]
  dsimp only
  rw [readU32At_append h₂, ok_bind]
  dsimp only
  rw [readU32At_append h₃, ok_bind]
  dsimp only
  rw [readBytes_append hcount, ok_bind]
  rfl

/-- A whole record is taken, whatever lies behind it. -/
theorem readSerializedDesc_of_whole {record : Bytes} (h : WholeRecord record) (rest : Bytes) :
    ∃ desc, readSerializedDesc (record ++ rest) = .ok (desc, rest) := by
  obtain ⟨fields, count, shape, name, hfields, hcount, haccepted, hshape, hname⟩ := h
  obtain ⟨dataType, format, tensorType, hread⟩ := readSerializedDesc_header hfields hcount
  obtain ⟨halloc, hmemcpy⟩ := countAccepted_iff.mp haccepted
  obtain ⟨dims, hdims⟩ := readShape_append hshape (name ++ [0] ++ rest)
  rw [List.append_assoc, List.append_assoc shape, hread, readBody, if_neg halloc, hmemcpy,
    Bool.not_true, if_neg Bool.false_ne_true, hdims, ok_bind]
  dsimp only
  rw [readName_append hname, ok_bind]
  exact ⟨_, rfl⟩

/-- A number of dimensions that is refused. -/
theorem readBody_refused {shapeNum : Nat} (h : ¬ CountAccepted shapeNum)
    (dataType format tensorType : UInt32) (rest : Bytes) : ∃ ret, ret ≠ .success ∧
      readBody dataType format tensorType shapeNum rest = .error (.ret ret) := by
  unfold readBody
  by_cases halloc : shapeNum > arrayMaxLength
  · rw [if_pos halloc]
    exact ⟨.nullPtr, by decide, rfl⟩
  · have hmemcpy : memcpySucceeds (shapeNum * 4) = false := by
      rw [← Bool.not_eq_true]
      exact fun htrue => h (countAccepted_iff.mpr ⟨halloc, htrue⟩)
    rw [if_neg halloc, hmemcpy, Bool.not_false, if_pos rfl]
    exact ⟨.memoryError, by decide, rfl⟩

/-- A refused record is answered with a code. -/
theorem readSerializedDesc_of_refused (h : RefusedRecord s) :
    ∃ ret, ret ≠ .success ∧ readSerializedDesc s = .error (.ret ret) := by
  obtain ⟨fields, count, rest, hfields, hcount, hrefused⟩ := h
  obtain ⟨dataType, format, tensorType, hread⟩ := readSerializedDesc_header hfields hcount
  rw [hread]
  exact readBody_refused hrefused dataType format tensorType rest

/-- **Reading a record**: a whole one is taken, and only a refused one is answered with a
code. -/
theorem readSerializedDesc_spec (s : Bytes) :
    (∃ desc record rest, WholeRecord record ∧ s = record ++ rest ∧
        readSerializedDesc s = .ok (desc, rest)) ∨
      (RefusedRecord s ∧ ∃ ret, ret ≠ .success ∧ readSerializedDesc s = .error (.ret ret)) ∨
      ∃ f, readSerializedDesc s = .error (.fault f) := by
  rcases readSerializedDesc_cases s with h |
    ⟨fields, count, rest, dataType, format, tensorType, hfields, hcount, rfl, h⟩
  · exact Or.inr (Or.inr ⟨_, h⟩)
  rw [h]
  by_cases haccepted : CountAccepted (LittleEndian.decode count)
  · obtain ⟨halloc, hmemcpy⟩ := countAccepted_iff.mp haccepted
    rw [readBody, if_neg halloc, hmemcpy, Bool.not_true, if_neg Bool.false_ne_true]
    rcases readShape_cases (LittleEndian.decode count) rest with hread |
      ⟨shape, rest, dims, hshape, rfl, hread⟩
    · exact Or.inr (Or.inr ⟨_, by rw [hread, error_bind]⟩)
    rw [hread, ok_bind]
    dsimp only
    rcases readName_cases rest with hread' | ⟨name, rest, rfl, hread'⟩
    · exact Or.inr (Or.inr ⟨_, by rw [hread', error_bind]⟩)
    rw [hread', ok_bind]
    refine Or.inl ⟨_, _, rest,
      .mk fields count shape name.val hfields hcount haccepted hshape name.property, ?_, rfl⟩
    simp only [List.append_assoc]
  · exact Or.inr (Or.inl ⟨.mk fields count rest hfields hcount haccepted,
      readBody_refused haccepted dataType format tensorType rest⟩)

end Record

/-! ## Whole buffers -/

/-- Whole records up to the end. -/
def Complete : Bytes → Prop :=
  ReadLoop.Framed WholeRecord fun tail => tail = []

/-- Whole records up to the end, or up to one that is refused. -/
def Framed : Bytes → Prop :=
  ReadLoop.Framed WholeRecord fun tail => tail = [] ∨ RefusedRecord tail

/-- Every buffer is answered with a code; an error leaves no description, and a success
means that the buffer was whole records. -/
def Deserializes (buffer : Bytes) : Prop :=
  ∃ ret descs, (∃ rounds, ∀ fuel, rounds ≤ fuel →
      deserializeInto fuel [] buffer = some (.ok (ret, descs))) ∧
    (ret ≠ .success → descs = []) ∧ (ret = .success → Complete buffer)

section Buffer

variable {s rest : Bytes} {desc : SerializedTensorDesc}

theorem readSerializedDesc_nil : readSerializedDesc [] = .error (.fault .outOfBounds) := rfl

theorem wholeRecord_length {record : Bytes} (h : WholeRecord record) : 20 < record.length := by
  obtain ⟨fields, count, shape, name, hfields, hcount, -, -, -⟩ := h
  simp only [List.length_append, List.length_cons]
  omega

/-- What the reader takes is a whole record. -/
theorem readSerializedDesc_eq_ok (h : readSerializedDesc s = .ok (desc, rest)) :
    ∃ record, WholeRecord record ∧ s = record ++ rest := by
  rcases readSerializedDesc_spec s with ⟨desc', record, rest', hrecord, hs, h'⟩ |
    ⟨-, ret, -, h'⟩ | ⟨f, h'⟩
  · cases h'.symm.trans h
    exact ⟨record, hrecord, hs⟩
  · cases h'.symm.trans h
  · cases h'.symm.trans h

theorem readSerializedDesc_progresses : ReadLoop.Progresses readSerializedDesc := by
  intro s desc rest h
  obtain ⟨record, hrecord, rfl⟩ := readSerializedDesc_eq_ok h
  have hlength := wholeRecord_length hrecord
  rw [List.length_append]
  omega

theorem matches_framed :
    ReadLoop.Matches readSerializedDesc WholeRecord fun tail => tail = [] ∨ RefusedRecord tail where
  sound _ _ _ := readSerializedDesc_eq_ok
  complete _ rest h := readSerializedDesc_of_whole h rest
  tail s r rest htail hread := by
    rcases htail with rfl | hrefused
    · cases readSerializedDesc_nil.symm.trans hread
    · obtain ⟨ret, -, herror⟩ := readSerializedDesc_of_refused hrefused
      cases herror.symm.trans hread

theorem matches_complete :
    ReadLoop.Matches readSerializedDesc WholeRecord fun tail => tail = [] where
  sound _ _ _ := readSerializedDesc_eq_ok
  complete _ rest h := readSerializedDesc_of_whole h rest
  tail s r rest htail hread := by
    subst htail
    cases readSerializedDesc_nil.symm.trans hread

/-- Copying a description never faults. -/
theorem copyToTensorDesc_cases (s : SerializedTensorDesc) :
    (∃ desc, copyToTensorDesc s = .ok desc) ∨
      ∃ ret, ret ≠ .success ∧ copyToTensorDesc s = .error (.ret ret) := by
  unfold copyToTensorDesc
  split
  · split
    · split
      · exact Or.inl ⟨_, rfl⟩
      · rename_i ret _ hne _
        exact Or.inr ⟨ret, hne, rfl⟩
    · rename_i ret _ hne _
      exact Or.inr ⟨ret, hne, rfl⟩
  · rename_i ret _ hne _
    exact Or.inr ⟨ret, hne, rfl⟩

/-- The second loop appends all descriptions, or it leaves none. -/
theorem copyLoop_cases (tensorDescs : List TensorDescPair)
    (serialized : List SerializedTensorDesc) :
    (∃ descs, serialized.mapM (fun s => do
          let desc ← copyToTensorDesc s
          return (desc, s.tensorType)) = (.ok descs : Except Stop (List TensorDescPair)) ∧
        copyLoop tensorDescs serialized = .ok (.success, tensorDescs ++ descs)) ∨
      ∃ ret, ret ≠ .success ∧ serialized.mapM (fun s => do
          let desc ← copyToTensorDesc s
          return (desc, s.tensorType)) = (.error (.ret ret) : Except Stop (List TensorDescPair)) ∧
        copyLoop tensorDescs serialized = .ok (ret, []) := by
  induction serialized generalizing tensorDescs with
  | nil => exact Or.inl ⟨[], rfl, by rw [copyLoop, List.append_nil]⟩
  | cons s serialized ih =>
    rw [List.mapM_cons, copyLoop]
    rcases copyToTensorDesc_cases s with ⟨desc, h⟩ | ⟨ret, hret, h⟩
    · rw [h]
      dsimp only
      rcases ih (tensorDescs ++ [(desc, s.tensorType)]) with
        ⟨descs, hmap, hloop⟩ | ⟨ret, hret, hmap, hloop⟩
      · refine Or.inl ⟨(desc, s.tensorType) :: descs, ?_, ?_⟩
        · rw [hmap]
          rfl
        · rw [hloop, List.append_assoc, List.singleton_append]
      · refine Or.inr ⟨ret, hret, ?_, hloop⟩
        rw [hmap]
        rfl
    · rw [h]
      exact Or.inr ⟨ret, hret, rfl, rfl⟩

/-- The loop over the records, where they are all read. -/
theorem deserializeInto_of_reads {buffer : Bytes} {serialized : List SerializedTensorDesc}
    (h : ReadLoop.Reads readSerializedDesc buffer serialized [])
    (tensorDescs : List TensorDescPair) :
    ∃ rounds, ∀ fuel, rounds ≤ fuel →
      deserializeInto fuel tensorDescs buffer = some (copyLoop tensorDescs serialized) := by
  obtain ⟨rounds, hrounds⟩ := h.ends_ok []
  refine ⟨rounds, fun fuel hfuel => ?_⟩
  rw [deserializeInto, readLoop, hrounds fuel hfuel]
  rfl

/-- The loop over the records, where one fails. -/
theorem deserializeInto_of_error {buffer s : Bytes} {serialized : List SerializedTensorDesc}
    (h : ReadLoop.Reads readSerializedDesc buffer serialized s) (hsome : s ≠ []) {e : Stop}
    (hread : readSerializedDesc s = .error e) (tensorDescs : List TensorDescPair) :
    ∃ rounds, ∀ fuel, rounds ≤ fuel → deserializeInto fuel tensorDescs buffer =
      some (match e with
        | .fault f => .error f
        | .ret ret => .ok (ret, tensorDescs)) := by
  obtain ⟨rounds, hrounds⟩ := h.ends_error hsome hread []
  refine ⟨rounds, fun fuel hfuel => ?_⟩
  rw [deserializeInto, readLoop, hrounds fuel hfuel]
  cases e with
  | fault f => rfl
  | ret ret => rfl

/-- **When a buffer is read safely**: when it is whole records, up to the end or up to one
whose number of dimensions is refused. -/
theorem deserializes_iff (buffer : Bytes) : Deserializes buffer ↔ Framed buffer := by
  obtain ⟨serialized, s, hreads, hend⟩ :=
    ReadLoop.exists_reads readSerializedDesc_progresses buffer
  have hframed := hreads.framed_iff matches_framed
  have hcomplete := hreads.framed_iff matches_complete
  rcases hend with rfl | ⟨hsome, e, hread⟩
  · -- The records reach the end of the buffer: what remains is copied without a fault.
    refine iff_of_true ?_ (hframed.mpr (.tail (Or.inl rfl)))
    have hwhole : Complete buffer := hcomplete.mpr (.tail rfl)
    have hends := deserializeInto_of_reads hreads []
    rcases copyLoop_cases [] serialized with ⟨descs, -, hloop⟩ | ⟨ret, hret, -, hloop⟩
    · rw [hloop] at hends
      exact ⟨.success, _, hends, fun hne => absurd rfl hne, fun _ => hwhole⟩
    · rw [hloop] at hends
      exact ⟨ret, [], hends, fun _ => rfl, fun hsuccess => absurd hsuccess hret⟩
  · obtain ⟨rounds, hrounds⟩ := deserializeInto_of_error hreads hsome hread []
    rcases readSerializedDesc_spec s with ⟨desc, record, rest, -, -, h⟩ |
      ⟨hrefused, ret, hret, h⟩ | ⟨f, h⟩
    · cases h.symm.trans hread
    · -- The last one is refused for its number of dimensions, before anything else is read.
      cases h.symm.trans hread
      refine iff_of_true ?_ (hframed.mpr (.tail (Or.inr hrefused)))
      exact ⟨ret, [], ⟨rounds, hrounds⟩, fun _ => rfl, fun hsuccess => absurd hsuccess hret⟩
    · -- The buffer ends inside a record: the fault is reached whatever the bound.
      cases h.symm.trans hread
      refine iff_of_false ?_ ?_
      · rintro ⟨ret, descs, ⟨rounds', hrounds'⟩, -, -⟩
        have hfault := hrounds (max rounds rounds') (Nat.le_max_left _ _)
        have hcode := hrounds' (max rounds rounds') (Nat.le_max_right _ _)
        cases hfault.symm.trans hcode
      · intro hall
        rcases (hframed.mp hall).tail_of_error matches_framed hread with rfl | hrefused
        · exact hsome rfl
        · obtain ⟨ret, -, herror⟩ := readSerializedDesc_of_refused hrefused
          cases herror.symm.trans hread

/-- The number of dimensions is there, and one dimension, but no name. -/
def unterminated : Bytes :=
  [12, 0, 0, 0, 0, 0, 0, 0, 0, 0, 0, 0] ++ [1, 0, 0, 0, 0, 0, 0, 0] ++ [2, 0, 0, 0]

/-- The name is looked for behind the end of the buffer. -/
theorem unterminated_overruns : ¬ Deserializes unterminated := by
  rintro ⟨ret, descs, ⟨rounds, hrounds⟩, -⟩
  have hcode := hrounds (rounds + 1) (Nat.le_succ rounds)
  have hfault : deserializeInto (rounds + 1) [] unterminated = some (.error .outOfBounds) := rfl
  cases hfault.symm.trans hcode

/-- The reading loop of a buffer, with any sufficient bound. -/
theorem readSerializedDescs_of_reads {serialized : List SerializedTensorDesc}
    (h : ReadLoop.Reads readSerializedDesc s serialized rest) {fuel : Nat}
    (hfuel : s.length ≤ fuel) :
    (rest = [] → readSerializedDescs fuel s = .ok serialized) ∧
      ∀ e, rest ≠ [] → readSerializedDesc rest = .error e →
        readSerializedDescs fuel s = .error e := by
  induction h generalizing fuel with
  | none s =>
    constructor
    · rintro rfl
      cases fuel <;> rfl
    · intro e hsome hread
      have hpos := List.length_pos_iff.mpr hsome
      obtain ⟨fuel, rfl⟩ : ∃ n, fuel = n + 1 := ⟨fuel - 1, by omega⟩
      rw [readSerializedDescs]
      · rw [hread, error_bind]
      · exact hsome
  | @more s rest' s' desc serialized hsome hread hrest ih =>
    -- A record has at least one byte, so the bound is enough for the rest as well.
    have hless := readSerializedDesc_progresses s desc rest' hread
    obtain ⟨fuel, rfl⟩ : ∃ n, fuel = n + 1 := ⟨fuel - 1, by omega⟩
    obtain ⟨hok, herror⟩ := @ih fuel (by omega)
    constructor
    · intro hnil
      rw [readSerializedDescs]
      · rw [hread, ok_bind]
        dsimp only
        rw [hok hnil, ok_bind]
        rfl
      · exact hsome
    · intro e hsome' hread'
      rw [readSerializedDescs]
      · rw [hread, ok_bind]
        dsimp only
        rw [herror e hsome' hread', error_bind]
      · exact hsome

/-- The code and the list that a result stands for, with the empty list its callers pass. -/
def leaves : Except Stop (List TensorDescPair) → Except Fault (ReturnCode × List TensorDescPair)
  | .ok descs => .ok (.success, descs)
  | .error (.ret ret) => .ok (ret, [])
  | .error (.fault f) => .error f

/-- **The loops of the source end**, for every buffer, and as the function over lists does. -/
theorem deserializeInto_ends (buffer : Bytes) : ∃ rounds, ∀ fuel, rounds ≤ fuel →
    deserializeInto fuel [] buffer = some (leaves (deserializedTensorsFromBuffer buffer)) := by
  obtain ⟨serialized, s, hreads, hend⟩ :=
    ReadLoop.exists_reads readSerializedDesc_progresses buffer
  obtain ⟨hok, herror⟩ := readSerializedDescs_of_reads hreads (Nat.le_refl _)
  rcases hend with rfl | ⟨hsome, e, hread⟩
  · obtain ⟨rounds, hrounds⟩ := deserializeInto_of_reads hreads []
    refine ⟨rounds, fun fuel hfuel => ?_⟩
    rw [hrounds fuel hfuel, deserializedTensorsFromBuffer, hok rfl, ok_bind]
    rcases copyLoop_cases [] serialized with ⟨descs, hmap, hloop⟩ | ⟨ret, -, hmap, hloop⟩
    · rw [hloop, hmap]
      rfl
    · rw [hloop, hmap]
      rfl
  · obtain ⟨rounds, hrounds⟩ := deserializeInto_of_error hreads hsome hread []
    refine ⟨rounds, fun fuel hfuel => ?_⟩
    rw [hrounds fuel hfuel, deserializedTensorsFromBuffer, herror e hsome hread, error_bind]
    cases e with
    | fault f => rfl
    | ret ret => rfl

end Buffer

/-! ## Writing through a pointer -/

/-- `totalSize` of `SerializeTensorsToBuffer`. -/
def totalSize (descs : List TensorDescPair) : Nat :=
  (descs.map fun desc =>
    4 + 4 + 4 + 8 + desc.1.shape.length * 4 + (desc.1.name.val.length + 1)).sum

/-- The memory that is written, and where. -/
structure WriteCursor where
  serializedData : Bytes
  currentPos : Nat

/-- A copy to `currentPos`, which is not compared with the end of the memory. -/
def writeField (field : Bytes) (c : WriteCursor) : Except Stop WriteCursor :=
  if c.currentPos + field.length ≤ c.serializedData.length then
    .ok {
      serializedData := c.serializedData.take c.currentPos ++ field ++
        c.serializedData.drop (c.currentPos + field.length)
      currentPos := c.currentPos + field.length }
  else .error (.fault .outOfBounds)

/-- One round of the writing loop. -/
def writeDesc (desc : TensorDescPair) (c : WriteCursor) : Except Stop WriteCursor := do
  let c ← writeField (encodeU32 desc.1.dataType.code) c
  let c ← writeField (encodeU32 desc.1.format.code) c
  let c ← writeField (encodeU32 desc.2) c
  let c ← writeField (LittleEndian.encode 8 desc.1.shape.length) c
  if !memcpySucceeds (desc.1.shape.length * 4) then .error (.ret .memoryError)
  else do
    let c ← writeField (encodeShape desc.1.shape) c
    if !strcpySucceeds (desc.1.name.val.length + 1) then .error (.ret .memoryError)
    else writeField (desc.1.name.val ++ [0]) c

/-- The writing loop. -/
def writeDescs : List TensorDescPair → WriteCursor → Except Stop WriteCursor
  | [], c => .ok c
  | desc :: descs, c => do
    let c ← writeDesc desc c
    writeDescs descs c

/-- `SerializeTensorsToBuffer` into new memory of `totalSize` bytes, whatever they hold. -/
def serializeInto (fresh : Nat → UInt8) (descs : List TensorDescPair) : Except Stop Bytes := do
  let c ← writeDescs descs ⟨(List.range (totalSize descs)).map fresh, 0⟩
  return c.serializedData

section Write

variable {written free : Bytes}

/-- The memory behind what has been written. -/
def cursorAt (written free : Bytes) : WriteCursor :=
  ⟨written ++ free, written.length⟩

theorem writeField_cursorAt {field : Bytes} (h : field.length ≤ free.length) :
    writeField field (cursorAt written free) =
      .ok (cursorAt (written ++ field) (free.drop field.length)) := by
  unfold writeField cursorAt
  have hroom : written.length + field.length ≤ (written ++ free).length := by
    rw [List.length_append]
    omega
  rw [if_pos hroom, List.take_left, ← List.drop_drop, List.drop_left, List.length_append]

theorem encodeShape_length (shape : List Int32) :
    (encodeShape shape).length = shape.length * 4 := by
  induction shape with
  | nil => rfl
  | cons dim shape ih =>
    have hcons : encodeShape (dim :: shape) = encodeU32 dim.toUInt32 ++ encodeShape shape := rfl
    rw [hcons, List.length_append, ih, encodeU32, LittleEndian.length_encode, List.length_cons]
    omega

theorem encodeDesc_length (desc : TensorDescPair) : (encodeDesc desc).length =
    4 + 4 + 4 + 8 + desc.1.shape.length * 4 + (desc.1.name.val.length + 1) := by
  simp only [encodeDesc, encodeU32, List.length_append, LittleEndian.length_encode,
    encodeShape_length, List.length_cons, List.length_nil]

/-- One record, where there is room for it. -/
theorem writeDesc_cursorAt {desc : TensorDescPair} (h : (encodeDesc desc).length ≤ free.length) :
    writeDesc desc (cursorAt written free) =
      match serializeDesc desc with
      | .error ret => .error (.ret ret)
      | .ok record => .ok (cursorAt (written ++ record) (free.drop record.length)) := by
  have hu32 : ∀ x, (encodeU32 x).length = 4 := fun x => LittleEndian.length_encode 4 _
  have hu64 : ∀ x, (LittleEndian.encode 8 x).length = 8 := LittleEndian.length_encode 8
  rw [encodeDesc_length] at h
  unfold writeDesc serializeDesc
  -- The room of each field is what the ones before it have left.
  rw [writeField_cursorAt (by rw [hu32]; omega), ok_bind,
    writeField_cursorAt (by rw [hu32, hu32, List.length_drop]; omega), ok_bind,
    writeField_cursorAt (by simp only [hu32, List.length_drop]; omega), ok_bind,
    writeField_cursorAt (by simp only [hu32, hu64, List.length_drop]; omega), ok_bind]
  by_cases hmemcpy : memcpySucceeds (desc.1.shape.length * 4) = true
  · rw [hmemcpy, Bool.not_true, if_neg Bool.false_ne_true, if_neg Bool.false_ne_true,
      writeField_cursorAt
        (by simp only [hu32, hu64, encodeShape_length, List.length_drop]; omega), ok_bind]
    by_cases hstrcpy : strcpySucceeds (desc.1.name.val.length + 1) = true
    · rw [hstrcpy, Bool.not_true, if_neg Bool.false_ne_true, if_neg Bool.false_ne_true,
        writeField_cursorAt (by
          simp only [hu32, hu64, encodeShape_length, List.length_drop, List.length_append,
            List.length_cons, List.length_nil]
          omega)]
      simp only [List.drop_drop, encodeDesc, List.length_append, List.append_assoc, Nat.add_assoc]
    · rw [Bool.not_eq_true] at hstrcpy
      rw [hstrcpy, Bool.not_false, if_pos rfl, if_pos rfl]
  · rw [Bool.not_eq_true] at hmemcpy
    rw [hmemcpy, Bool.not_false, if_pos rfl, if_pos rfl]

/-- All records, where there is room for them. -/
theorem writeDescs_cursorAt {descs : List TensorDescPair} (h : totalSize descs ≤ free.length) :
    writeDescs descs (cursorAt written free) =
      match serializeTensorsToBuffer descs with
      | .error ret => .error (.ret ret)
      | .ok records => .ok (cursorAt (written ++ records) (free.drop records.length)) := by
  induction descs generalizing written free with
  | nil =>
    show Except.ok (cursorAt written free) = Except.ok (cursorAt (written ++ []) (free.drop 0))
    rw [List.append_nil, List.drop_zero]
  | cons desc descs ih =>
    have hsize : totalSize (desc :: descs) = (encodeDesc desc).length + totalSize descs := by
      rw [totalSize, List.map_cons, List.sum_cons, encodeDesc_length]
      rfl
    rw [hsize] at h
    rw [writeDescs, serializeTensorsToBuffer, writeDesc_cursorAt (by omega)]
    cases hdesc : serializeDesc desc with
    | error ret => rfl
    | ok record =>
      obtain ⟨-, rfl⟩ := serializeDesc_eq_ok_iff.mp hdesc
      have hroom : totalSize descs ≤ (free.drop (encodeDesc desc).length).length := by
        rw [List.length_drop]
        omega
      rw [ok_bind, ok_bind, ih hroom]
      cases serializeTensorsToBuffer descs with
      | error ret => rfl
      | ok records =>
        dsimp only
        rw [List.append_assoc, List.drop_drop, ← List.length_append]
        rfl

/-- **The size that is computed** is the size of the records. -/
theorem serializeTensorsToBuffer_length {descs : List TensorDescPair} {buffer : Bytes}
    (h : serializeTensorsToBuffer descs = .ok buffer) : buffer.length = totalSize descs := by
  obtain ⟨-, rfl⟩ := serializeTensorsToBuffer_eq_ok_iff.mp h
  rw [List.length_flatMap, totalSize]
  congr 1
  exact List.map_congr_left fun desc _ => encodeDesc_length desc

/-- The writing loop never leaves the memory, and fills it. -/
theorem serializeInto_eq (fresh : Nat → UInt8) (descs : List TensorDescPair) :
    serializeInto fresh descs =
      match serializeTensorsToBuffer descs with
      | .error ret => .error (.ret ret)
      | .ok buffer => .ok buffer := by
  have hlength : ((List.range (totalSize descs)).map fresh).length = totalSize descs := by
    rw [List.length_map, List.length_range]
  have hcursor : (⟨(List.range (totalSize descs)).map fresh, 0⟩ : WriteCursor) =
      cursorAt [] ((List.range (totalSize descs)).map fresh) := rfl
  unfold serializeInto
  rw [hcursor, writeDescs_cursorAt hlength.ge]
  cases hbuffer : serializeTensorsToBuffer descs with
  | error ret => rfl
  | ok buffer =>
    have hsize := serializeTensorsToBuffer_length hbuffer
    dsimp only
    rw [ok_bind, cursorAt, List.nil_append, List.drop_of_length_le (by omega), List.append_nil]
    rfl

/-- The loop over the records comes to the end of what has been written. -/
theorem readLoop_of_serialized {descs : List TensorDescPair} {buffer : Bytes}
    (h : serializeTensorsToBuffer descs = .ok buffer) :
    ∃ serialized rounds, ∀ fuel, rounds ≤ fuel →
      readLoop fuel buffer = some (.ok ⟨[], serialized⟩) := by
  obtain ⟨hwritable, rfl⟩ := serializeTensorsToBuffer_eq_ok_iff.mp h
  have hread := readSerializedDescs_encode hwritable _ (Nat.le_refl _)
  obtain ⟨serialized, s, hreads, hend⟩ :=
    ReadLoop.exists_reads readSerializedDesc_progresses (descs.flatMap encodeDesc)
  rcases hend with rfl | ⟨hsome, e, hfail⟩
  · exact ⟨serialized, hreads.ends_ok []⟩
  · have herror := (readSerializedDescs_of_reads hreads (Nat.le_refl _)).2 e hsome hfail
    cases hread.symm.trans herror

/-- **Round trip**: the buffer has the size that was computed, and the descriptions are
read back until nothing of it is left. -/
theorem serialize_roundTrip {fresh : Nat → UInt8} {descs : List TensorDescPair} {buffer : Bytes}
    (h : serializeInto fresh descs = .ok buffer) : buffer.length = totalSize descs ∧
      ∃ rounds, ∀ fuel, rounds ≤ fuel →
        deserializeInto fuel [] buffer = some (.ok (.success, descs)) ∧
        ∃ serialized, readLoop fuel buffer = some (.ok ⟨[], serialized⟩) := by
  rw [serializeInto_eq] at h
  cases hbuffer : serializeTensorsToBuffer descs with
  | error ret =>
    rw [hbuffer] at h
    cases h
  | ok buffer' =>
    rw [hbuffer] at h
    cases h
    obtain ⟨rounds, hrounds⟩ := deserializeInto_ends buffer
    obtain ⟨serialized, rounds', hrounds'⟩ := readLoop_of_serialized hbuffer
    rw [deserialize_serialize hbuffer] at hrounds
    refine ⟨serializeTensorsToBuffer_length hbuffer, max rounds rounds', fun fuel hfuel => ?_⟩
    exact ⟨hrounds fuel (by omega), serialized, hrounds' fuel (by omega)⟩

theorem serialize_roundTrip_floats : ∃ buffer rounds, ∀ fuel, rounds ≤ fuel →
    deserializeInto fuel [] buffer =
      some (.ok (.success, [(TensorDesc.floats 3, 1), (TensorDesc.floats 4, 2)])) := by
  obtain ⟨buffer, hbuffer⟩ : ∃ buffer, serializeInto (fun _ => 255)
      [(TensorDesc.floats 3, 1), (TensorDesc.floats 4, 2)] = .ok buffer := ⟨_, rfl⟩
  obtain ⟨-, rounds, hrounds⟩ := serialize_roundTrip hbuffer
  exact ⟨buffer, rounds, fun fuel hfuel => (hrounds fuel hfuel).1⟩

end Write

end NNRt
