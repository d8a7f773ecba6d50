import NNRt.Ops.TensorValues

/-!
# Block shapes, paddings and crops

`SpaceToBatchND` and `BatchToSpaceND` take a block shape and a matrix of two rows, and each
builder rebuilds the matrix in a loop of its own. The loop of the first starts again at the
first number for the second row.

- `foldl_put_block`, `foldl_put_rows`: blocks are appended, and the last matrix counts.
- `layoutKept_iff`: **a built operation keeps the layout of its parameters exactly if there is
  one block at most, the last matrix agrees with every other, and, for `SpaceToBatchND`, the
  rows of every matrix are equal.**
-/

namespace NNRt.Ops

/-- The two operations. -/
inductive BlockOp
  | spaceToBatch
  | batchToSpace

namespace BlockOp

def operation : BlockOp → OperationType
  | spaceToBatch => .spaceToBatchNd
  | batchToSpace => .batchToSpaceNd

def blockType : BlockOp → TensorType
  | spaceToBatch => .spaceToBatchNdBlockShape
  | batchToSpace => .batchToSpaceNdBlocksize

def matrixType : BlockOp → TensorType
  | spaceToBatch => .spaceToBatchNdPaddings
  | batchToSpace => .batchToSpaceNdCrops

end BlockOp

/-- The attributes of the primitive of either operation. -/
structure Layout where
  block : List Int64
  rows : List (List Int64)

/-- The attributes a primitive of either kind has. -/
def layoutOf : Primitive → Option Layout
  | .spaceToBatchND blockShape paddings => some ⟨blockShape, paddings⟩
  | .batchToSpaceND blockSize crops => some ⟨blockSize, crops⟩
  | _ => none

namespace Layout

/-- What a parameter says. -/
inductive Param
  | block (data : List Int64)
  | matrix (rows : List (List Int64))

/-- The block is appended, and the matrix replaces the one before. -/
def put (l : Layout) : Param → Layout
  | .block data => { l with block := l.block ++ data }
  | .matrix rows => { l with rows := rows }

def Param.block? : Param → Option (List Int64)
  | .block data => some data
  | .matrix _ => none

def Param.matrix? : Param → Option (List (List Int64))
  | .block _ => none
  | .matrix rows => some rows

theorem foldl_put_block (l : Layout) (ps : List Param) :
    (ps.foldl put l).block = l.block ++ (ps.filterMap Param.block?).flatten := by
  induction ps generalizing l with
  | nil => exact (List.append_nil _).symm
  | cons p ps ih =>
    rw [List.foldl_cons, ih]
    cases p with
    | block data => exact List.append_assoc _ _ _
    | matrix rows => rfl

theorem foldl_put_rows (l : Layout) (ps : List Param) :
    (ps.foldl put l).rows = (ps.filterMap Param.matrix?).getLastD l.rows :=
  Writes.foldl_field (fun _ p => by cases p <;> rfl) l ps

/-- Lists that are not empty are all of what they make up only where there is one. -/
theorem flatten_eq_iff {ls : List (List Int64)} (h : ∀ l ∈ ls, l ≠ []) :
    (∀ l ∈ ls, ls.flatten = l) ↔ ls.length ≤ 1 := by
  match ls, h with
  | [], _ => exact iff_of_true (List.forall_mem_nil _) (Nat.zero_le 1)
  | [l], _ =>
    refine iff_of_true (fun l' hl' => ?_) le_rfl
    obtain rfl := List.mem_singleton.mp hl'
    exact List.append_nil l'
  | l :: l' :: ls, h =>
    refine iff_of_false (fun hall => ?_) (by simp)
    have hfirst : l ++ (l' :: ls).flatten = l := hall l List.mem_cons_self
    have hnil := List.append_right_eq_self.mp hfirst
    have hempty := (List.append_eq_nil_iff.mp hnil).1
    exact h l' (List.mem_cons_of_mem l List.mem_cons_self) hempty

end Layout

/-! ## The two builders -/

namespace BlockOp

open Layout

/-- The setters of the builders, as readings. -/
def readings : BlockOp → List (TensorType × Reading Param)
  | spaceToBatch =>
    [(.spaceToBatchNdBlockShape,
        .int64s [.dataType .int64, .rank 1, .elementCount 2, .buffer] .block),
      (.spaceToBatchNdPaddings,
        .value [.dataType .int64, .rank 2, .elementCount 4, .buffer] (·.int64s 2)
          fun row => .matrix [row, row])]
  | batchToSpace =>
    [(.batchToSpaceNdBlocksize,
        .int64s [.mark, .dataType .int64, .buffer] .block),
      (.batchToSpaceNdCrops, .value [.mark, .dataType .int64, .buffer] (·.int64s 4)
        fun crops => .matrix (twoRows crops))]

theorem goesBy_spaceToBatch :
    spaceToBatchNDBuilder.GoesBy (fun _ => True) (readings .spaceToBatch) fun s p =>
      .ok ⟨(put ⟨s.blockShape, s.paddings⟩ p).block, (put ⟨s.blockShape, s.paddings⟩ p).rows⟩ :=
  .cons ⟨rfl, Reading.goes_value (fun _ => rfl) fun _ _ => rfl⟩
    (.cons ⟨rfl, Reading.goes_value (fun _ => rfl) fun _ _ => rfl⟩ .nil)

theorem goesBy_batchToSpace :
    batchToSpaceNDBuilder.GoesBy (fun _ => True) (readings .batchToSpace) fun s p =>
      .ok ⟨(put ⟨s.blockSize, s.crops⟩ p).block, (put ⟨s.blockSize, s.crops⟩ p).rows⟩ :=
  .cons ⟨rfl, Reading.goes_value (fun _ => rfl) fun _ _ => rfl⟩
    (.cons ⟨rfl, Reading.goes_value (fun _ => rfl) fun _ _ => rfl⟩ .nil)

/-- **The attributes of a built operation** are what its parameters say, in order. -/
theorem layout_of_build {kind : BlockOp} {params inputs outputs : List Nat}
    {tensors tensors' : List Tensor} {op : BuiltOp}
    (h : (getOpsBuilder kind.operation).builder.build params inputs outputs tensors =
      .ok (.ok op, tensors')) :
    ∃ ps primitive,
      List.Forall₂ (fun t p => decode kind.readings t = .ok p)
        (OpsBuilder.tensorsAt tensors params) ps ∧
      op.primitive = .ok (some primitive) ∧ layoutOf primitive = some (ps.foldl put ⟨[], []⟩) := by
  cases kind with
  | spaceToBatch =>
    obtain ⟨s, ps, hs, hps, hop⟩ := OpsBuilder.primitive_of_build goesBy_spaceToBatch
      (fun _ => Iff.rfl) (fun _ _ => trivial) h
    cases hs
    refine ⟨ps, _, hps, hop, congrArg some ?_⟩
    exact (List.foldl_hom (fun s : SpaceToBatchND => (⟨s.blockShape, s.paddings⟩ : Layout))
      fun _ _ => rfl).symm
  | batchToSpace =>
    obtain ⟨s, ps, hs, hps, hop⟩ := OpsBuilder.primitive_of_build goesBy_batchToSpace
      (fun _ => Iff.rfl) (fun _ _ => trivial) h
    cases hs
    refine ⟨ps, _, hps, hop, congrArg some ?_⟩
    exact (List.foldl_hom (fun s : BatchToSpaceND => (⟨s.blockSize, s.crops⟩ : Layout))
      fun _ _ => rfl).symm

/-- The matrix a builder makes of four numbers. -/
def rebuilt : BlockOp → Int64 → Int64 → Int64 → Int64 → List (List Int64)
  | spaceToBatch, a, b, _, _ => [[a, b], [a, b]]
  | batchToSpace, a, b, c, d => [[a, b], [c, d]]

/-- A block parameter, and what it says. -/
def IsBlock (kind : BlockOp) (t : Tensor) (data : List Int64) : Prop :=
  t.tensorType = kind.blockType ∧ t.allInt64 = .ok data ∧ data ≠ []

/-- A matrix parameter, and what it says. -/
def IsMatrix (kind : BlockOp) (t : Tensor) (rows : List (List Int64)) : Prop :=
  t.tensorType = kind.matrixType ∧ (kind = .spaceToBatch → t.elementCount = 4) ∧
    ∃ a b c d, t.int64s 4 = .ok [a, b, c, d] ∧ rows = kind.rebuilt a b c d

/-- A block that is read is a block parameter. -/
theorem isBlock_of_decode {kind : BlockOp} {t : Tensor} {p : Param} {checks : List Check}
    (hfilled : t.Filled) (htype : t.tensorType = kind.blockType) (hbuffer : .buffer ∈ checks)
    (h : (Reading.int64s checks .block).decode t = .ok p) :
    ∃ data, p = .block data ∧ kind.IsBlock t data := by
  obtain ⟨hchecks, data, hdata, rfl⟩ := Reading.decode_value h
  have hne := Tensor.allInt64_ne_nil hfilled (hchecks .buffer hbuffer) hdata
  exact ⟨data, rfl, htype, hdata, hne⟩

/-- **What an accepted parameter says.** -/
theorem decode_cases {kind : BlockOp} {t : Tensor} {p : Param} (hfilled : t.Filled)
    (h : decode kind.readings t = .ok p) :
    (∃ data, p = .block data ∧ kind.IsBlock t data) ∨
      ∃ rows, p = .matrix rows ∧ kind.IsMatrix t rows := by
  obtain ⟨r, hmem, hdecode⟩ := mem_of_decode h
  cases kind with
  | spaceToBatch =>
    rcases List.mem_pair.mp hmem with hblock | hmatrix
    · obtain ⟨htype, rfl⟩ := Prod.mk.inj hblock
      exact Or.inl (isBlock_of_decode hfilled htype (by decide) hdecode)
    · obtain ⟨htype, rfl⟩ := Prod.mk.inj hmatrix
      obtain ⟨hchecks, row, hrow, rfl⟩ := Reading.decode_value hdecode
      have hint := Check.dataType_of_passes (d := .int64) hchecks (by decide)
      have hcount := Check.elementCount_of_passes (n := 4) hchecks (by decide)
      obtain ⟨a, b, rfl, ha, hb⟩ := Tensor.int64s_two hrow
      obtain ⟨data, hdata, -⟩ := Tensor.int64s_ok (n := 4) hfilled hint
        (hchecks .buffer (by decide)) (by rw [hcount]; decide)
      obtain ⟨a', b', c, d, rfl, ha', hb', -⟩ := Tensor.int64s_four hdata
      cases ha.symm.trans ha'
      cases hb.symm.trans hb'
      exact Or.inr ⟨_, rfl, htype, fun _ => hcount, a, b, c, d, hdata, rfl⟩
  | batchToSpace =>
    rcases List.mem_pair.mp hmem with hblock | hmatrix
    · obtain ⟨htype, rfl⟩ := Prod.mk.inj hblock
      exact Or.inl (isBlock_of_decode hfilled htype (by decide) hdecode)
    · obtain ⟨htype, rfl⟩ := Prod.mk.inj hmatrix
      obtain ⟨-, data, hdata, rfl⟩ := Reading.decode_value hdecode
      obtain ⟨a, b, c, d, rfl, -⟩ := Tensor.int64s_four hdata
      exact Or.inr ⟨_, rfl, htype, nofun, a, b, c, d, hdata, rfl⟩

/-- The parameters of a call that give the matrix. -/
def matrices (kind : BlockOp) (ts : List Tensor) : List Tensor :=
  ts.filter (·.tensorType = kind.matrixType)

/-- The parameters of a call that give the block. -/
def blocks (kind : BlockOp) (ts : List Tensor) : List Tensor :=
  ts.filter (·.tensorType = kind.blockType)

/-- The block parameters and the matrix parameters, each with what they say. -/
theorem parameters_split {kind : BlockOp} {ts : List Tensor} {ps : List Param}
    (hfilled : ∀ t ∈ ts, t.Filled)
    (h : List.Forall₂ (fun t p => decode kind.readings t = .ok p) ts ps) :
    List.Forall₂ kind.IsBlock (kind.blocks ts) (ps.filterMap Param.block?) ∧
      List.Forall₂ kind.IsMatrix (kind.matrices ts) (ps.filterMap Param.matrix?) := by
  have htypes : kind.blockType ≠ kind.matrixType := by cases kind <;> decide
  unfold blocks matrices
  induction h with
  | nil => exact ⟨.nil, .nil⟩
  | @cons t p ts ps hp _ ih =>
    obtain ⟨ht, hts⟩ := List.forall_mem_cons.mp hfilled
    obtain ⟨hblocks, hmatrices⟩ := ih hts
    rcases decode_cases ht hp with ⟨data, rfl, hblock⟩ | ⟨rows, rfl, hmatrix⟩
    · have hin : (t.tensorType = kind.blockType) := hblock.1
      have hout : ¬ t.tensorType = kind.matrixType := hin ▸ htypes
      rw [List.filter_cons, List.filter_cons, if_pos (decide_eq_true hin),
        if_neg (mt of_decide_eq_true hout)]
      exact ⟨.cons hblock hblocks, hmatrices⟩
    · have hin : (t.tensorType = kind.matrixType) := hmatrix.1
      have hout : ¬ t.tensorType = kind.blockType := hin ▸ htypes.symm
      rw [List.filter_cons, List.filter_cons, if_neg (mt of_decide_eq_true hout),
        if_pos (decide_eq_true hin)]
      exact ⟨hblocks, .cons hmatrix hmatrices⟩

/-! ## The law -/

/-- A built operation has the layout of its parameters: the block is the data of each block
parameter, and the entry `[i][j]` of the matrix is the element `2 * i + j` of each matrix
parameter of four elements. -/
def LayoutKept (kind : BlockOp) (ts : List Tensor) (op : BuiltOp) : Prop :=
  ∃ primitive layout, op.primitive = .ok (some primitive) ∧ layoutOf primitive = some layout ∧
    (∀ t ∈ kind.blocks ts, t.allInt64 = .ok layout.block) ∧
    ∀ t ∈ kind.matrices ts, t.elementCount = 4 → ∀ a b c d, t.int64s 4 = .ok [a, b, c, d] →
      layout.rows = [[a, b], [c, d]]

/-- The parameters that come through: one block at most, matrices of four elements that agree
with the last matrix, and, in front of the wrong loop, only equal rows. -/
def KeepsLayout (kind : BlockOp) (ts : List Tensor) : Prop :=
  (kind.blocks ts).length ≤ 1 ∧
    (∀ t ∈ kind.matrices ts, t.elementCount = 4 → ∀ u, (kind.matrices ts).getLast? = some u →
      u.int64s 4 = t.int64s 4) ∧
    (kind = .spaceToBatch → ∀ t ∈ kind.matrices ts, ∀ a b c d,
      t.int64s 4 = .ok [a, b, c, d] → a = c ∧ b = d)

/-- The matrix a builder is left with, and the matrices of four elements it was given. -/
theorem rows_kept_iff {kind : BlockOp} {ts : List Tensor} {rs : List (List (List Int64))}
    (h : List.Forall₂ kind.IsMatrix ts rs) :
    (∀ t ∈ ts, t.elementCount = 4 → ∀ a b c d, t.int64s 4 = .ok [a, b, c, d] →
        rs.getLastD [] = [[a, b], [c, d]]) ↔
      (∀ t ∈ ts, t.elementCount = 4 → ∀ u, ts.getLast? = some u → u.int64s 4 = t.int64s 4) ∧
        (kind = .spaceToBatch → ∀ t ∈ ts, ∀ a b c d, t.int64s 4 = .ok [a, b, c, d] →
          a = c ∧ b = d) := by
  rcases getLast?_of_forall₂ h with ⟨rfl, rfl⟩ | ⟨u, r, hu, hr, -, hcount, a, b, c, d, hfour, rfl⟩
  · exact iff_of_true (List.forall_mem_nil _)
      ⟨List.forall_mem_nil _, fun _ => List.forall_mem_nil _⟩
  have hmem : u ∈ ts := List.mem_of_getLast? hu
  have hlast : rs.getLastD [] = kind.rebuilt a b c d := by
    rw [List.getLastD_eq_getLast?, hr]
    rfl
  rw [hlast, hu]
  constructor
  · intro hkept
    have hrows : kind = .spaceToBatch → a = c ∧ b = d := by
      -- The last matrix is one that is kept itself.
      rintro rfl
      have heq := hkept u hmem (hcount rfl) a b c d hfour
      exact ⟨by cases heq; rfl, by cases heq; rfl⟩
    have hdata : ∀ t ∈ ts, t.elementCount = 4 → t.int64s 4 = .ok [a, b, c, d] := by
      intro t ht hfour'
      obtain ⟨-, -, -, -, a', b', c', d', hdata, -⟩ := exists_mem_of_forall₂ h t ht
      have heq := hkept t ht hfour' a' b' c' d' hdata
      rw [hdata]
      cases kind with
      | spaceToBatch =>
        obtain ⟨rfl, rfl⟩ := hrows rfl
        cases heq
        rfl
      | batchToSpace =>
        cases heq
        rfl
    refine ⟨fun t ht hfour' v hv => ?_, fun hkind t ht a' b' c' d' ht' => ?_⟩
    · cases hv
      rw [hfour, hdata t ht hfour']
    · obtain ⟨-, -, -, hfour', -⟩ := exists_mem_of_forall₂ h t ht
      have heq := (hdata t ht (hfour' hkind)).symm.trans ht'
      cases heq
      exact hrows hkind
  · rintro ⟨hagree, hrows⟩ t ht hfour' a' b' c' d' ht'
    have heq := (hagree t ht hfour' u rfl).symm.trans hfour
    cases ht'.symm.trans heq
    cases kind with
    | spaceToBatch =>
      obtain ⟨rfl, rfl⟩ := hrows rfl u hmem a b c d hfour
      rfl
    | batchToSpace => rfl

/-- The block a builder is left with, and the blocks it was given. -/
theorem block_kept_iff {kind : BlockOp} {ts : List Tensor} {bs : List (List Int64)}
    (h : List.Forall₂ kind.IsBlock ts bs) :
    (∀ t ∈ ts, t.allInt64 = .ok bs.flatten) ↔ ts.length ≤ 1 := by
  have hagree : ∀ t data, kind.IsBlock t data →
      (t.allInt64 = .ok bs.flatten ↔ bs.flatten = data) := by
    rintro t data ⟨-, hdata, -⟩
    rw [hdata, Except.ok.injEq]
    exact eq_comm
  have hne : ∀ data ∈ bs, data ≠ [] := by
    refine (forall_mem_iff_of_forall₂ (P := fun _ => True) (fun t data hblock => ?_) h).mp
      fun _ _ => trivial
    exact iff_of_true trivial hblock.2.2
  rw [forall_mem_iff_of_forall₂ hagree h, flatten_eq_iff hne, h.length_eq]

/-- **When a built operation has the layout of its parameters.** -/
theorem layoutKept_iff {kind : BlockOp} {params inputs outputs : List Nat}
    {tensors tensors' : List Tensor} {op : BuiltOp}
    (hfilled : ∀ t ∈ OpsBuilder.tensorsAt tensors params, t.Filled)
    (h : (getOpsBuilder kind.operation).builder.build params inputs outputs tensors =
      .ok (.ok op, tensors')) :
    kind.LayoutKept (OpsBuilder.tensorsAt tensors params) op ↔
      kind.KeepsLayout (OpsBuilder.tensorsAt tensors params) := by
  obtain ⟨ps, primitive, hps, hop, hlayout⟩ := layout_of_build h
  obtain ⟨hblocks, hmatrices⟩ := parameters_split hfilled hps
  have hblock := block_kept_iff hblocks
  have hrows := rows_kept_iff hmatrices
  rw [← List.nil_append (List.flatten _), ← foldl_put_block ⟨[], []⟩ ps] at hblock
  rw [← foldl_put_rows ⟨[], []⟩ ps] at hrows
  unfold LayoutKept KeepsLayout
  rw [← hblock, ← hrows]
  constructor
  · rintro ⟨primitive', layout, hop', hlayout', hkept⟩
    cases hop.symm.trans hop'
    cases hlayout.symm.trans hlayout'
    exact hkept
  · exact fun hkept => ⟨primitive, _, hop, hlayout, hkept⟩

/-- The bytes of small numbers, as 64-bit integers. -/
def int64Bytes (xs : List UInt8) : Bytes :=
  xs.flatMap fun x => [x, 0, 0, 0, 0, 0, 0, 0]

/-- An input, an output, a block of two and a matrix of four numbers. -/
def blockTensors (kind : BlockOp) (matrix : List UInt8) : List Tensor :=
  [{}, {},
    { tensorType := kind.blockType, dataType := .int64, dimensions := [2], elementCount := 2,
      buffer := some (int64Bytes [2, 2]) },
    { tensorType := kind.matrixType, dataType := .int64, dimensions := [2, 2], elementCount := 4,
      buffer := some (int64Bytes matrix) }]

theorem filled_blockTensors (kind : BlockOp) (a b c d : UInt8) :
    ∀ t ∈ OpsBuilder.tensorsAt (blockTensors kind [a, b, c, d]) [2, 3], t.Filled := by
  intro t ht bytes hbytes
  rcases List.mem_pair.mp ht with rfl | rfl
  · cases hbytes
    exact ⟨show 0 < (2 : UInt32).toNat by decide, rfl⟩
  · cases hbytes
    exact ⟨show 0 < (4 : UInt32).toNat by decide, rfl⟩

theorem layoutKept_iff_crops : ∃ op tensors',
    (getOpsBuilder (operation .batchToSpace)).builder.build [2, 3] [0] [1]
      (blockTensors .batchToSpace [1, 2, 3, 4]) = .ok (.ok op, tensors') ∧
    LayoutKept .batchToSpace
      (OpsBuilder.tensorsAt (blockTensors .batchToSpace [1, 2, 3, 4]) [2, 3]) op := by
  obtain ⟨op, tensors', h⟩ : ∃ op tensors',
      (getOpsBuilder (operation .batchToSpace)).builder.build [2, 3] [0] [1]
        (blockTensors .batchToSpace [1, 2, 3, 4]) = .ok (.ok op, tensors') := ⟨_, _, rfl⟩
  refine ⟨op, tensors', h, (layoutKept_iff (filled_blockTensors _ 1 2 3 4) h).mpr ⟨?_, ?_, nofun⟩⟩
  · decide
  · intro t ht _ u hu
    obtain rfl := List.mem_singleton.mp ht
    cases hu
    rfl

/-- The second row of the paddings is lost. -/
theorem paddings_row_lost : ∃ op tensors',
    spaceToBatchNDBuilder.build [2, 3] [0] [1] (blockTensors .spaceToBatch [1, 2, 3, 4]) =
      .ok (.ok op, tensors') ∧
    op.primitive = .ok (some (.spaceToBatchND [2, 2] [[1, 2], [1, 2]])) ∧
    ¬ LayoutKept .spaceToBatch
      (OpsBuilder.tensorsAt (blockTensors .spaceToBatch [1, 2, 3, 4]) [2, 3]) op := by
  refine ⟨_, _, rfl, rfl, ?_⟩
  rintro ⟨primitive, layout, hop, hlayout, -, hkept⟩
  cases hop
  cases hlayout
  cases hkept _ List.mem_cons_self rfl 1 2 3 4 rfl

end BlockOp

end NNRt.Ops
