import NNRt.Ops.Readings

/-!
# Values of tensors

A tensor of the model under construction owns a buffer of exactly its elements, or none:
`Filled`. What a setter reads of such a tensor it can read, as long as it stays among the
elements and reads them as what they are.
-/

namespace NNRt.Tensor

/-- A tensor that has a buffer has its elements in it, and at least one. -/
def Filled (t : Tensor) : Prop :=
  ∀ bytes, t.buffer = some bytes → 0 < t.elementCount.toNat ∧
    bytes.length = t.elementCount.toNat * t.dataType.typeSize.toNat

theorem filled_mark (t : Tensor) : Filled t.identifyOpParameter ↔ Filled t :=
  Iff.rfl

/-- A buffer that is there. -/
theorem exists_buffer {t : Tensor} (h : t.buffer.isSome = true) : ∃ bytes, t.buffer = some bytes :=
  Option.isSome_iff_exists.mp h

/-- A tensor with a buffer has a first element. -/
theorem first_lt {t : Tensor} (hfilled : t.Filled) (h : t.buffer.isSome = true) :
    0 < t.elementCount.toNat := by
  obtain ⟨bytes, hbytes⟩ := exists_buffer h
  exact (hfilled bytes hbytes).1

/-- An element is inside the buffer, read as no more than it is. -/
theorem number_ok {t : Tensor} {w i : Nat} (hfilled : t.Filled)
    (hsize : w ≤ t.dataType.typeSize.toNat) (hbuffer : t.buffer.isSome = true)
    (hi : i < t.elementCount.toNat) : ∃ n, t.number w i = .ok n := by
  obtain ⟨bytes, hbytes⟩ := exists_buffer hbuffer
  have hroom : w * i + w ≤ bytes.length := by
    calc w * i + w = w * (i + 1) := rfl
      _ ≤ t.dataType.typeSize.toNat * t.elementCount.toNat := Nat.mul_le_mul hsize hi
      _ = bytes.length := by rw [(hfilled bytes hbytes).2, Nat.mul_comm]
  refine ⟨LittleEndian.decode ((bytes.drop (w * i)).take w), ?_⟩
  unfold number
  rw [hbytes]
  exact if_pos hroom

/-- The first elements of a tensor of 64-bit integers. -/
theorem int64s_ok {t : Tensor} {n : Nat} (hfilled : t.Filled) (htype : t.dataType = .int64)
    (hbuffer : t.buffer.isSome = true) (hn : n ≤ t.elementCount.toNat) :
    ∃ data, t.int64s n = .ok data ∧ data.length = n := by
  have hsize : t.dataType.typeSize.toNat = 8 := by rw [htype]; rfl
  have hread : ∀ i ∈ List.range n, t.int64 i =
      .ok (Int64.ofNat ((t.number 8 i).toOption.getD 0)) := by
    intro i hi
    obtain ⟨k, hk⟩ := number_ok hfilled hsize.ge hbuffer
      (Nat.lt_of_lt_of_le (List.mem_range.mp hi) hn)
    unfold int64
    rw [hk]
    rfl
  refine ⟨_, mapM_eq_ok hread, ?_⟩
  rw [List.length_map, List.length_range]

/-- All of them. -/
theorem allInt64_ok {t : Tensor} (hfilled : t.Filled) (htype : t.dataType = .int64)
    (hbuffer : t.buffer.isSome = true) :
    ∃ data, t.allInt64 = .ok data ∧ data.length = t.elementCount.toNat :=
  int64s_ok hfilled htype hbuffer le_rfl

/-- There is one at least. -/
theorem allInt64_ne_nil {t : Tensor} (hfilled : t.Filled) (hbuffer : t.buffer.isSome = true)
    {data : List Int64} (h : t.allInt64 = .ok data) : data ≠ [] := by
  rintro rfl
  have hpos := first_lt hfilled hbuffer
  have hlength : (List.range t.elementCount.toNat).length = 0 := (forall₂_of_mapM h).length_eq
  rw [List.length_range] at hlength
  omega

/-- Four integers, read one after the other. -/
theorem int64s_four {t : Tensor} {data : List Int64} (h : t.int64s 4 = .ok data) :
    ∃ a b c d, data = [a, b, c, d] ∧ t.int64 0 = .ok a ∧ t.int64 1 = .ok b ∧ t.int64 2 = .ok c ∧
      t.int64 3 = .ok d := by
  have hall : List.Forall₂ (fun i x => t.int64 i = .ok x) [0, 1, 2, 3] data := forall₂_of_mapM h
  match hall with
  | .cons ha (.cons hb (.cons hc (.cons hd .nil))) => exact ⟨_, _, _, _, rfl, ha, hb, hc, hd⟩

/-- Two integers, the first two of more. -/
theorem int64s_two {t : Tensor} {data : List Int64} (h : t.int64s 2 = .ok data) :
    ∃ a b, data = [a, b] ∧ t.int64 0 = .ok a ∧ t.int64 1 = .ok b := by
  have hall : List.Forall₂ (fun i x => t.int64 i = .ok x) [0, 1] data := forall₂_of_mapM h
  match hall with
  | .cons ha (.cons hb .nil) => exact ⟨_, _, rfl, ha, hb⟩

end NNRt.Tensor
