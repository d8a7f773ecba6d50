import NNRt.Model.LiteGraph

/-!
# The dimensions in the extensions

A lite graph may come with the dimensions of its inputs, of which some are left open, and with
rows of values for the open ones. Both are buffers of the user that are cut into lists.

- `parseInputsLoop_spec`: the dimensions of the inputs are a partition of the first buffer.
- `parseRowsLoop_spec`: the second buffer is cut into rows.
- `parsesDims_iff`: **what is accepted, and when that is what it should be.**
-/

namespace NNRt

/-- `INPUT_MAX_COUNT`. -/
def inputMaxCount : Nat := 200

/-- A value of an extension; `none` is a null pointer. -/
abbrev ExtensionValue := Option Bytes

/-- `dimsValue[i]`, read without a bound as the source does. -/
def dimsValueAt (data : Bytes) (i : Nat) : Except Fault Int32 :=
  if 4 * i + 4 ≤ data.length then
    .ok (Int32.ofNat (LittleEndian.decode ((data.drop (4 * i)).take 4)))
  else .error .outOfBounds

/-- The loop over the dimensions of one input, which counts the open ones. -/
def parseInputDim (data : Bytes) :
    Nat → List Int32 → Nat → Nat → Except Fault (List Int32 × Nat × Nat)
  | 0, inputDim, dynamicCount, dataIndex => .ok (inputDim, dynamicCount, dataIndex)
  | n + 1, inputDim, dynamicCount, dataIndex => do
    let dim ← dimsValueAt data dataIndex
    parseInputDim data n (inputDim ++ [dim])
      (if dim = -1 then dynamicCount + 1 else dynamicCount) (dataIndex + 1)

/-- The loop of `ParseInputDimsFromExtensions` over the inputs: the code, the dimensions, which
are cleared before an error, and the number of open ones. -/
def parseInputsLoop (data : Bytes) (nullTensor : LiteTensor)
    (allTensors : List (Option LiteTensor)) :
    List Nat → Nat → Nat → Nat → List (List Int32) →
      Except Fault (ReturnCode × List (List Int32) × Nat)
  | [], allDimsSize, dynamicCount, _, inputDims =>
    if allDimsSize ≠ 0 then .ok (.invalidParameter, [], dynamicCount)
    else .ok (.success, inputDims, dynamicCount)
  | index :: indices, allDimsSize, dynamicCount, dataIndex, inputDims =>
    match allTensors[index]? with
    | none => .ok (.invalidParameter, [], dynamicCount)
    | some tensor =>
      let inputDimSize := (tensor.getD nullTensor).dims.length
      if allDimsSize < inputDimSize then .ok (.invalidParameter, [], dynamicCount)
      else do
        let (inputDim, dynamicCount, dataIndex) ←
          parseInputDim data inputDimSize [] dynamicCount dataIndex
        parseInputsLoop data nullTensor allTensors indices (allDimsSize - inputDimSize)
          dynamicCount dataIndex (inputDims ++ [inputDim])

/-- `ParseInputDimsFromExtensions`. -/
def parseInputDimsFromExtensions (data : Bytes) (nullTensor : LiteTensor) (liteGraph : LiteGraph)
    (extensionConfig : ExtensionConfig) : Except Fault (ReturnCode × ExtensionConfig × Nat) :=
  if liteGraph.inputIndices.length > inputMaxCount then
    .ok (.invalidParameter, { extensionConfig with inputDims := [] }, 0)
  else do
    let (ret, inputDims, dynamicCount) ← parseInputsLoop data nullTensor liteGraph.allTensors
      liteGraph.inputIndices (data.length / 4) 0 0 []
    return (ret, { extensionConfig with inputDims := inputDims }, dynamicCount)

/-- The loop over the values of one row. -/
def parseRow (data : Bytes) : Nat → List Int32 → Nat → Except Fault (List Int32 × Nat)
  | 0, dynamicDim, dataIndex => .ok (dynamicDim, dataIndex)
  | n + 1, dynamicDim, dataIndex => do
    let dim ← dimsValueAt data dataIndex
    parseRow data n (dynamicDim ++ [dim]) (dataIndex + 1)

/-- The loop over the rows. -/
def parseRowsLoop (data : Bytes) (dynamicCount : Nat) :
    Nat → Nat → List (List Int32) → Except Fault (List (List Int32))
  | 0, _, dynamicDims => .ok dynamicDims
  | n + 1, dataIndex, dynamicDims => do
    let (dynamicDim, dataIndex) ← parseRow data dynamicCount [] dataIndex
    parseRowsLoop data dynamicCount n dataIndex (dynamicDims ++ [dynamicDim])

/-- `ParseDynamicDimsFromExtensions` of the values of its two keys, which the caller has
found. -/
def parseDynamicDimsFromExtensions (inputDims dynamicDims : List ExtensionValue)
    (nullTensor : LiteTensor) (liteGraph : LiteGraph) (extensionConfig : ExtensionConfig) :
    Except Fault (ReturnCode × ExtensionConfig) :=
  match inputDims, dynamicDims with
  | some data :: _, some dynamicData :: _ =>
    if data.length = 0 ∨ dynamicData.length = 0 then .ok (.invalidParameter, extensionConfig)
    else do
      let (ret, extensionConfig, dynamicCount) ←
        parseInputDimsFromExtensions data nullTensor liteGraph extensionConfig
      if ret ≠ .success then return (ret, extensionConfig)
      else if dynamicCount = 0 then
        return (.invalidParameter, { extensionConfig with inputDims := [] })
      else
        let extensionConfig := { extensionConfig with dynamicDims := [] }
        let dynamicDimsSize := dynamicData.length / 4
        if dynamicDimsSize % dynamicCount ≠ 0 then
          return (.invalidParameter, { extensionConfig with inputDims := [] })
        else
          let dynamicDims ←
            parseRowsLoop dynamicData dynamicCount (dynamicDimsSize / dynamicCount) 0 []
          return (.success, { extensionConfig with dynamicDims := dynamicDims })
  -- No value, or a null pointer: what the configuration has is left.
  | _, _ => .ok (.invalidParameter, extensionConfig)

/-! ## The values of a buffer -/

/-- The value at a position, whatever lies behind the end. -/
def int32At (data : Bytes) (i : Nat) : Int32 :=
  Int32.ofNat (LittleEndian.decode ((data.drop (4 * i)).take 4))

/-- The values from a position on. -/
def int32sFrom (data : Bytes) (i n : Nat) : List Int32 :=
  (List.range' i n).map (int32At data)

/-- All the values that fit into the buffer. -/
def int32s (data : Bytes) : List Int32 :=
  int32sFrom data 0 (data.length / 4)

theorem int32sFrom_succ (data : Bytes) (i n : Nat) :
    int32sFrom data i (n + 1) = int32At data i :: int32sFrom data (i + 1) n := by
  unfold int32sFrom
  rw [List.range'_succ, List.map_cons]

theorem int32sFrom_add (data : Bytes) (i m n : Nat) :
    int32sFrom data i (m + n) = int32sFrom data i m ++ int32sFrom data (i + m) n := by
  unfold int32sFrom
  rw [← List.range'_append_1, List.map_append]

@[simp] theorem length_int32sFrom (data : Bytes) (i n : Nat) :
    (int32sFrom data i n).length = n := by
  simp [int32sFrom]

theorem dimsValueAt_eq {data : Bytes} {i : Nat} (h : 4 * (i + 1) ≤ data.length) :
    dimsValueAt data i = .ok (int32At data i) :=
  if_pos (by omega)

/-! ## The inputs -/

theorem parseInputDim_eq {data : Bytes} {n dataIndex : Nat}
    (h : 4 * (dataIndex + n) ≤ data.length) (inputDim : List Int32) (dynamicCount : Nat) :
    parseInputDim data n inputDim dynamicCount dataIndex =
      .ok (inputDim ++ int32sFrom data dataIndex n,
        dynamicCount + (int32sFrom data dataIndex n).count (-1), dataIndex + n) := by
  induction n generalizing inputDim dynamicCount dataIndex with
  | zero => simp [parseInputDim, int32sFrom]
  | succ n ih =>
    unfold parseInputDim
    rw [dimsValueAt_eq (by omega), ok_bind, ih (by omega), int32sFrom_succ, List.count_cons,
      List.append_assoc, Nat.add_right_comm dataIndex 1 n]
    congr 3
    split
    · rename_i hopen
      rw [hopen]
      simp [Nat.add_assoc, Nat.add_comm]
    · rename_i hfixed
      simp [hfixed]

/-- The rank of the tensor of an index. -/
def rankAt? (nullTensor : LiteTensor) (allTensors : List (Option LiteTensor)) (index : Nat) :
    Option Nat :=
  allTensors[index]?.map fun tensor => (tensor.getD nullTensor).dims.length

/-- All indices are tensors of the graph, and these are their ranks. -/
def Ranked (nullTensor : LiteTensor) (allTensors : List (Option LiteTensor)) :
    List Nat → List Nat → Prop :=
  List.Forall₂ fun index rank => rankAt? nullTensor allTensors index = some rank

/-- The ranks are those of the graph. -/
theorem Ranked.unique {nullTensor : LiteTensor} {allTensors : List (Option LiteTensor)}
    {indices ranks ranks' : List Nat} (h : Ranked nullTensor allTensors indices ranks)
    (h' : Ranked nullTensor allTensors indices ranks') : ranks' = ranks := by
  refine List.right_unique_forall₂' (fun index rank rank' hrank hrank' => ?_) h' h
  exact Option.some.inj (hrank.symm.trans hrank')

/-- Lists of the given lengths that make up a list, one behind the other. -/
structure Partition (ranks : List Nat) (values : List Int32) (parts : List (List Int32)) :
    Prop where
  lengths : parts.map List.length = ranks
  flatten : parts.flatten = values

theorem Partition.cons {ranks : List Nat} {values : List Int32} {parts : List (List Int32)}
    (h : Partition ranks values parts) (part : List Int32) :
    Partition (part.length :: ranks) (part ++ values) (part :: parts) :=
  ⟨by rw [List.map_cons, h.lengths], by rw [List.flatten_cons, h.flatten]⟩

/-- **The loop over the inputs** cuts the buffer into their dimensions if it holds exactly
those. -/
theorem parseInputsLoop_spec {data : Bytes} {nullTensor : LiteTensor}
    {allTensors : List (Option LiteTensor)} {indices : List Nat} {allDimsSize dataIndex : Nat}
    (hroom : 4 * (dataIndex + allDimsSize) ≤ data.length) (dynamicCount : Nat)
    (inputDims : List (List Int32)) :
    (∃ ranks, Ranked nullTensor allTensors indices ranks ∧ ranks.sum = allDimsSize ∧
      ∃ parts, Partition ranks (int32sFrom data dataIndex allDimsSize) parts ∧
        parseInputsLoop data nullTensor allTensors indices allDimsSize dynamicCount dataIndex
            inputDims =
          .ok (.success, inputDims ++ parts,
            dynamicCount + (int32sFrom data dataIndex allDimsSize).count (-1))) ∨
    ((∀ ranks, Ranked nullTensor allTensors indices ranks → ranks.sum ≠ allDimsSize) ∧
      ∃ count, parseInputsLoop data nullTensor allTensors indices allDimsSize dynamicCount
        dataIndex inputDims = .ok (.invalidParameter, [], count)) := by
  induction indices generalizing allDimsSize dataIndex dynamicCount inputDims with
  | nil =>
    unfold parseInputsLoop
    by_cases hleft : allDimsSize = 0
    · subst hleft
      exact Or.inl ⟨[], .nil, rfl, [], ⟨rfl, rfl⟩, by simp [int32sFrom]⟩
    · rw [if_pos hleft]
      refine Or.inr ⟨fun ranks hranks hsum => ?_, _, rfl⟩
      cases hranks
      exact hleft hsum.symm
  | cons index indices ih =>
    unfold parseInputsLoop
    cases htensor : allTensors[index]? with
    | none =>
      refine Or.inr ⟨fun ranks hranks _ => ?_, _, rfl⟩
      cases hranks with
      | cons hrank _ =>
        rw [rankAt?, htensor] at hrank
        cases hrank
    | some tensor =>
      obtain ⟨rank, hsize⟩ : ∃ rank, (tensor.getD nullTensor).dims.length = rank := ⟨_, rfl⟩
      have hrank : rankAt? nullTensor allTensors index = some rank := by
        rw [rankAt?, htensor, ← hsize]
        rfl
      dsimp only
      rw [hsize]
      by_cases hshort : allDimsSize < rank
      · rw [if_pos hshort]
        refine Or.inr ⟨fun ranks hranks hsum => ?_, _, rfl⟩
        cases hranks with
        | cons hrank' _ =>
          cases hrank.symm.trans hrank'
          rw [List.sum_cons] at hsum
          omega
      · rw [if_neg hshort, parseInputDim_eq (by omega), ok_bind]
        -- The values of this input, and those of the inputs behind it.
        have hvalues := int32sFrom_add data dataIndex rank (allDimsSize - rank)
        rw [Nat.add_sub_cancel' (Nat.not_lt.mp hshort)] at hvalues
        have hroom' : 4 * (dataIndex + rank + (allDimsSize - rank)) ≤ data.length := by omega
        rcases ih hroom' (dynamicCount + (int32sFrom data dataIndex rank).count (-1))
          (inputDims ++ [int32sFrom data dataIndex rank]) with
          ⟨ranks, hranks, hsum, parts, hparts, hrest⟩ | ⟨hno, count, hrest⟩
        · refine Or.inl ⟨rank :: ranks, .cons hrank hranks, ?_,
            int32sFrom data dataIndex rank :: parts, ?_, ?_⟩
          · rw [List.sum_cons, hsum]
            omega
          · have hcons := hparts.cons (int32sFrom data dataIndex rank)
            rw [length_int32sFrom, ← hvalues] at hcons
            exact hcons
          · rw [hvalues, List.count_append, ← Nat.add_assoc]
            refine hrest.trans ?_
            rw [List.append_assoc]
            rfl
        · refine Or.inr ⟨fun ranks hranks hsum => ?_, count, hrest⟩
          cases hranks with
          | @cons _ rank' _ ranks hrank' hranks =>
            cases hrank.symm.trans hrank'
            rw [List.sum_cons] at hsum
            exact hno ranks hranks (by omega)

/-! ## The rows -/

theorem parseRow_eq {data : Bytes} {n dataIndex : Nat} (h : 4 * (dataIndex + n) ≤ data.length)
    (dynamicDim : List Int32) :
    parseRow data n dynamicDim dataIndex =
      .ok (dynamicDim ++ int32sFrom data dataIndex n, dataIndex + n) := by
  induction n generalizing dynamicDim dataIndex with
  | zero => simp [parseRow, int32sFrom]
  | succ n ih =>
    unfold parseRow
    rw [dimsValueAt_eq (by omega), ok_bind, ih (by omega), int32sFrom_succ, List.append_assoc,
      Nat.add_right_comm dataIndex 1 n]
    rfl

/-- **The loop over the rows** cuts the values from a position on into rows of one length. -/
theorem parseRowsLoop_spec {data : Bytes} {dynamicCount n dataIndex : Nat}
    (h : 4 * (dataIndex + n * dynamicCount) ≤ data.length) (dynamicDims : List (List Int32)) :
    ∃ rows, Partition (List.replicate n dynamicCount)
        (int32sFrom data dataIndex (n * dynamicCount)) rows ∧
      parseRowsLoop data dynamicCount n dataIndex dynamicDims = .ok (dynamicDims ++ rows) := by
  induction n generalizing dataIndex dynamicDims with
  | zero => exact ⟨[], ⟨rfl, by simp [int32sFrom]⟩, by simp [parseRowsLoop]⟩
  | succ n ih =>
    rw [Nat.succ_mul n] at h
    obtain ⟨rows, hrows, hrest⟩ := @ih (dataIndex + dynamicCount) (by omega)
      (dynamicDims ++ [int32sFrom data dataIndex dynamicCount])
    refine ⟨int32sFrom data dataIndex dynamicCount :: rows, ?_, ?_⟩
    · have hcons := hrows.cons (int32sFrom data dataIndex dynamicCount)
      rw [length_int32sFrom, ← int32sFrom_add] at hcons
      rw [List.replicate_succ, Nat.succ_mul n, Nat.add_comm (n * dynamicCount)]
      exact hcons
    · unfold parseRowsLoop
      rw [parseRow_eq (by omega), ok_bind]
      refine hrest.trans ?_
      rw [List.append_assoc]
      rfl

/-! ## What is accepted -/

/-- What should be accepted: four bytes for each dimension of the inputs, an open dimension,
and at least one row of four bytes for each of those. -/
structure AcceptableDims (ranks : List Nat) (data dynamicData : Bytes) : Prop where
  size : data.length = 4 * ranks.sum
  isOpen : -1 ∈ int32s data
  rows : ∃ rows, 0 < rows ∧ dynamicData.length = rows * (4 * (int32s data).count (-1))

/-- What is accepted: the sizes are compared once they are divided. -/
structure AcceptedDims (ranks : List Nat) (data dynamicData : Bytes) : Prop where
  size : data.length / 4 = ranks.sum
  isOpen : -1 ∈ int32s data
  given : dynamicData ≠ []
  rows : (int32s data).count (-1) ∣ dynamicData.length / 4

theorem AcceptableDims.accepted {ranks : List Nat} {data dynamicData : Bytes}
    (h : AcceptableDims ranks data dynamicData) : AcceptedDims ranks data dynamicData := by
  obtain ⟨rows, hpos, hrows⟩ := h.rows
  have hcount : 0 < (int32s data).count (-1) := List.count_pos_iff.mpr h.isOpen
  have hassoc : rows * (4 * (int32s data).count (-1)) = 4 * (rows * (int32s data).count (-1)) :=
    Nat.mul_left_comm _ _ _
  refine ⟨by rw [h.size]; omega, h.isOpen, ?_, ?_⟩
  · rintro rfl
    have hlong := Nat.mul_pos hpos hcount
    rw [List.length_nil] at hrows
    omega
  · rw [hrows, hassoc, Nat.mul_div_cancel_left _ (by decide)]
    exact Nat.dvd_mul_left _ _

/-- No bytes may be left over. -/
theorem AcceptedDims.acceptable_iff {ranks : List Nat} {data dynamicData : Bytes}
    (h : AcceptedDims ranks data dynamicData) :
    AcceptableDims ranks data dynamicData ↔ 4 ∣ data.length ∧ 4 ∣ dynamicData.length := by
  constructor
  · intro hacceptable
    obtain ⟨rows, -, hrows⟩ := hacceptable.rows
    refine ⟨⟨_, hacceptable.size⟩, rows * (int32s data).count (-1), ?_⟩
    rw [hrows, Nat.mul_left_comm]
  · rintro ⟨⟨n, hdata⟩, m, hdynamic⟩
    obtain ⟨rows, hrows⟩ := h.rows
    have hsize := h.size
    have hgiven : 0 < dynamicData.length := List.length_pos_iff.mpr h.given
    rw [hdynamic, Nat.mul_div_cancel_left _ (by decide)] at hrows
    refine ⟨by omega, h.isOpen, rows, ?_, ?_⟩
    · by_contra hzero
      rw [Nat.eq_zero_of_not_pos hzero, Nat.mul_zero] at hrows
      omega
    · rw [hdynamic, hrows, Nat.mul_comm rows, Nat.mul_assoc]

section Parsing

variable {data dynamicData : Bytes} {inputs dynamics : List ExtensionValue}
  {nullTensor : LiteTensor} {liteGraph : LiteGraph} {extensionConfig : ExtensionConfig}

/-- The first buffer, parsed. -/
theorem parseInputDims_spec (hmany : liteGraph.inputIndices.length ≤ inputMaxCount) :
    (∃ ranks, Ranked nullTensor liteGraph.allTensors liteGraph.inputIndices ranks ∧
      data.length / 4 = ranks.sum ∧ ∃ parts, Partition ranks (int32s data) parts ∧
        parseInputDimsFromExtensions data nullTensor liteGraph extensionConfig =
          .ok (.success, { extensionConfig with inputDims := parts },
            (int32s data).count (-1))) ∨
    ((∀ ranks, Ranked nullTensor liteGraph.allTensors liteGraph.inputIndices ranks →
        data.length / 4 ≠ ranks.sum) ∧
      ∃ count, parseInputDimsFromExtensions data nullTensor liteGraph extensionConfig =
        .ok (.invalidParameter, { extensionConfig with inputDims := [] }, count)) := by
  have hroom : 4 * (0 + data.length / 4) ≤ data.length := by omega
  rw [parseInputDimsFromExtensions, if_neg (Nat.not_lt.mpr hmany)]
  rcases @parseInputsLoop_spec _ nullTensor _ _ _ _ hroom 0 [] with
    ⟨ranks, hranks, hsum, parts, hparts, hloop⟩ | ⟨hno, count, hloop⟩
  · rw [hloop, Nat.zero_add]
    exact Or.inl ⟨ranks, hranks, hsum.symm, parts, hparts, rfl⟩
  · rw [hloop]
    exact Or.inr ⟨fun ranks hranks hsum => hno ranks hranks hsum.symm, count, rfl⟩

/-- **The two buffers**, parsed. -/
theorem parseDynamicDims_spec (hmany : liteGraph.inputIndices.length ≤ inputMaxCount) :
    (∃ ranks, Ranked nullTensor liteGraph.allTensors liteGraph.inputIndices ranks ∧
      AcceptedDims ranks data dynamicData ∧ ∃ parts rows n,
        Partition ranks (int32s data) parts ∧
        Partition (List.replicate n ((int32s data).count (-1))) (int32s dynamicData) rows ∧
        parseDynamicDimsFromExtensions (some data :: inputs) (some dynamicData :: dynamics)
            nullTensor liteGraph extensionConfig =
          .ok (.success, { extensionConfig with inputDims := parts, dynamicDims := rows })) ∨
    ((∀ ranks, Ranked nullTensor liteGraph.allTensors liteGraph.inputIndices ranks →
        ¬ AcceptedDims ranks data dynamicData) ∧
      ∃ config', parseDynamicDimsFromExtensions (some data :: inputs)
          (some dynamicData :: dynamics) nullTensor liteGraph extensionConfig =
        .ok (.invalidParameter, config') ∧
        config'.inputDims =
          if data = [] ∨ dynamicData = [] then extensionConfig.inputDims else []) := by
  unfold parseDynamicDimsFromExtensions
  by_cases hempty : data = [] ∨ dynamicData = []
  · have hlength : data.length = 0 ∨ dynamicData.length = 0 :=
      hempty.imp List.length_eq_zero_iff.mpr List.length_eq_zero_iff.mpr
    refine Or.inr ⟨fun ranks _ haccepted => ?_, _, if_pos hlength, (if_pos hempty).symm⟩
    rcases hempty with rfl | rfl
    · cases haccepted.isOpen
    · exact haccepted.given rfl
  have hlength : ¬ (data.length = 0 ∨ dynamicData.length = 0) :=
    fun h => hempty (h.imp List.length_eq_zero_iff.mp List.length_eq_zero_iff.mp)
  rw [if_neg hempty]
  dsimp only
  rw [if_neg hlength]
  rcases @parseInputDims_spec data nullTensor _ extensionConfig hmany with
    ⟨ranks, hranks, hsize, parts, hparts, hinputs⟩ | ⟨hno, count, hinputs⟩
  · rw [hinputs, ok_bind]
    dsimp only
    rw [if_neg (not_not.mpr rfl)]
    by_cases hopen : (int32s data).count (-1) = 0
    · rw [if_pos hopen]
      refine Or.inr ⟨fun ranks hranks haccepted => ?_, _, rfl, rfl⟩
      exact List.count_eq_zero.mp hopen haccepted.isOpen
    rw [if_neg hopen]
    by_cases hrows : dynamicData.length / 4 % (int32s data).count (-1) ≠ 0
    · rw [if_pos hrows]
      refine Or.inr ⟨fun ranks hranks haccepted => ?_, _, rfl, rfl⟩
      exact hrows (Nat.mod_eq_zero_of_dvd haccepted.rows)
    rw [if_neg hrows]
    have hdvd : (int32s data).count (-1) ∣ dynamicData.length / 4 :=
      Nat.dvd_of_mod_eq_zero (not_not.mp hrows)
    have hcut := Nat.div_mul_cancel hdvd
    obtain ⟨rows, hpartition, hparse⟩ := @parseRowsLoop_spec dynamicData
      ((int32s data).count (-1)) _ 0 (by rw [hcut]; omega) []
    rw [hcut] at hpartition
    rw [hparse]
    refine Or.inl ⟨ranks, hranks, ⟨hsize, ?_, fun hnil => hempty (Or.inr hnil), hdvd⟩, parts,
      rows, _, hparts, hpartition, rfl⟩
    exact List.count_pos_iff.mp (Nat.pos_of_ne_zero hopen)
  · rw [hinputs]
    exact Or.inr ⟨fun ranks hranks haccepted => hno ranks hranks haccepted.size, _, rfl, rfl⟩

/-- Two buffers are parsed as they should be, without a byte outside them being read: the
acceptable ones succeed, the first is left as the dimensions of the inputs and the second as
rows, and an error leaves no dimensions of inputs. -/
def ParsesDims (data dynamicData : Bytes) (inputs dynamics : List ExtensionValue)
    (nullTensor : LiteTensor) (liteGraph : LiteGraph) (extensionConfig : ExtensionConfig) : Prop :=
  ∃ ret config', parseDynamicDimsFromExtensions (some data :: inputs)
      (some dynamicData :: dynamics) nullTensor liteGraph extensionConfig = .ok (ret, config') ∧
    (ret = .success ↔ ∃ ranks,
      Ranked nullTensor liteGraph.allTensors liteGraph.inputIndices ranks ∧
        AcceptableDims ranks data dynamicData) ∧
    (ret = .success →
      (∀ ranks, Ranked nullTensor liteGraph.allTensors liteGraph.inputIndices ranks →
        Partition ranks (int32s data) config'.inputDims) ∧
      config'.dynamicDims ≠ [] ∧
      ∃ n, Partition (List.replicate n ((int32s data).count (-1))) (int32s dynamicData)
        config'.dynamicDims) ∧
    (ret ≠ .success → config'.inputDims = [])

/-- Acceptable rows are at least one. -/
theorem AcceptableDims.rows_ne_nil {ranks lengths : List Nat} {rows : List (List Int32)}
    (h : AcceptableDims ranks data dynamicData)
    (hrows : Partition lengths (int32s dynamicData) rows) : rows ≠ [] := by
  rintro rfl
  have hnone : int32s dynamicData = [] := hrows.flatten.symm
  have hlength : dynamicData.length / 4 = 0 := by
    rw [← length_int32sFrom dynamicData 0 (dynamicData.length / 4)]
    exact congrArg List.length hnone
  obtain ⟨n, hpos, hsize⟩ := h.rows
  have hlong := Nat.mul_pos hpos (List.count_pos_iff.mpr h.isOpen)
  rw [Nat.mul_left_comm] at hsize
  omega

/-- **When two buffers are parsed as they should be**: no bytes are left over in either where
they are accepted, and where one is empty there were no dimensions before. -/
theorem parsesDims_iff (hmany : liteGraph.inputIndices.length ≤ inputMaxCount) :
    ParsesDims data dynamicData inputs dynamics nullTensor liteGraph extensionConfig ↔
      (∀ ranks, Ranked nullTensor liteGraph.allTensors liteGraph.inputIndices ranks →
        AcceptedDims ranks data dynamicData → 4 ∣ data.length ∧ 4 ∣ dynamicData.length) ∧
      (data ≠ [] ∧ dynamicData ≠ [] ∨ extensionConfig.inputDims = []) := by
  rcases @parseDynamicDims_spec data dynamicData inputs dynamics nullTensor _ extensionConfig
    hmany with
    ⟨ranks, hranks, haccepted, parts, rows, n, hparts, hrows, hparse⟩ |
      ⟨hno, config', hparse, hleft⟩
  · have hgiven : data ≠ [] := by
      rintro rfl
      cases haccepted.isOpen
    constructor
    · rintro ⟨ret, config', hparse', hiff, -⟩
      cases hparse.symm.trans hparse'
      obtain ⟨ranks', hranks', hacceptable⟩ := hiff.mp rfl
      rw [hranks.unique hranks'] at hacceptable
      refine ⟨fun _ _ _ => haccepted.acceptable_iff.mp hacceptable, Or.inl ⟨hgiven, ?_⟩⟩
      exact haccepted.given
    · rintro ⟨hwhole, -⟩
      have hacceptable := haccepted.acceptable_iff.mpr (hwhole ranks hranks haccepted)
      refine ⟨_, _, hparse, iff_of_true rfl ⟨ranks, hranks, hacceptable⟩, fun _ => ?_, fun h =>
        absurd rfl h⟩
      refine ⟨fun ranks' hranks' => ?_, hacceptable.rows_ne_nil hrows, n, hrows⟩
      rw [hranks.unique hranks']
      exact hparts
  · constructor
    · rintro ⟨ret, config'', hparse', -, -, hcleared⟩
      cases hparse.symm.trans hparse'
      refine ⟨fun ranks hranks haccepted => absurd haccepted (hno ranks hranks), ?_⟩
      by_cases hempty : data = [] ∨ dynamicData = []
      · rw [if_pos hempty] at hleft
        exact Or.inr (hleft.symm.trans (hcleared (by decide)))
      · exact Or.inl (not_or.mp hempty)
    · rintro ⟨-, hgiven⟩
      have hne : ReturnCode.invalidParameter ≠ .success := by decide
      refine ⟨_, _, hparse, iff_of_false hne ?_, fun h => absurd h hne, fun _ => ?_⟩
      · rintro ⟨ranks, hranks, hacceptable⟩
        exact hno ranks hranks hacceptable.accepted
      · rw [hleft]
        split
        · rename_i hempty
          exact hgiven.resolve_left fun h => hempty.elim h.1 h.2
        · rfl

end Parsing

/-- A graph with one input of two dimensions. -/
def matrixGraph : LiteGraph where
  inputIndices := [0]
  allTensors := [some ⟨cString [], .float32, [-1, -1], some .nhwc, [], []⟩]

/-- The tensor a null pointer is taken for. -/
def noTensor : LiteTensor :=
  ⟨cString [], .unknown, [], none, [], []⟩

/-- One open dimension and three rows, which are parsed as they should be. -/
theorem parsesDims_iff_threeRows :
    parseDynamicDimsFromExtensions [some [255, 255, 255, 255, 2, 0, 0, 0]]
        [some [1, 0, 0, 0, 2, 0, 0, 0, 3, 0, 0, 0]] noTensor matrixGraph {} =
      .ok (.success, { inputDims := [[-1, 2]], dynamicDims := [[1], [2], [3]] }) ∧
    ParsesDims [255, 255, 255, 255, 2, 0, 0, 0] [1, 0, 0, 0, 2, 0, 0, 0, 3, 0, 0, 0] [] [] noTensor
      matrixGraph {} := by
  refine ⟨by decide, (parsesDims_iff (by decide)).mpr ⟨fun _ _ _ => ?_, Or.inr rfl⟩⟩
  exact ⟨by decide, by decide⟩

/-- A buffer of three bytes is taken for no rows, and a byte behind the dimensions for
nothing. -/
theorem partial_values_accepted :
    (parseDynamicDimsFromExtensions [some [255, 255, 255, 255, 2, 0, 0, 0]] [some [1, 0, 0]]
        noTensor matrixGraph {}) =
      .ok (.success, { inputDims := [[-1, 2]], dynamicDims := [] }) ∧
    (parseDynamicDimsFromExtensions [some [255, 255, 255, 255, 2, 0, 0, 0, 7]] [some [1, 0, 0, 0]]
        noTensor matrixGraph {}) =
      .ok (.success, { inputDims := [[-1, 2]], dynamicDims := [[1]] }) ∧
    ¬ ParsesDims [255, 255, 255, 255, 2, 0, 0, 0] [1, 0, 0] [] [] noTensor matrixGraph {} ∧
    ¬ ParsesDims [255, 255, 255, 255, 2, 0, 0, 0, 7] [1, 0, 0, 0] [] [] noTensor matrixGraph
      {} := by
  have hthree : parseDynamicDimsFromExtensions [some [255, 255, 255, 255, 2, 0, 0, 0]]
      [some [1, 0, 0]] noTensor matrixGraph {} =
      .ok (.success, { inputDims := [[-1, 2]], dynamicDims := [] }) := by decide
  have hnine : parseDynamicDimsFromExtensions [some [255, 255, 255, 255, 2, 0, 0, 0, 7]]
      [some [1, 0, 0, 0]] noTensor matrixGraph {} =
      .ok (.success, { inputDims := [[-1, 2]], dynamicDims := [[1]] }) := by decide
  refine ⟨hthree, hnine, ?_, ?_⟩
  · rintro ⟨ret, config', hparse, -, hsuccess, -⟩
    cases hthree.symm.trans hparse
    exact (hsuccess rfl).2.1 rfl
  · rintro ⟨ret, config', hparse, hiff, -⟩
    cases hnine.symm.trans hparse
    obtain ⟨ranks, -, hacceptable⟩ := hiff.mp rfl
    have hsize : 9 = 4 * ranks.sum := hacceptable.size
    omega

end NNRt
