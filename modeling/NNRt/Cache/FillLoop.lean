import NNRt.Cache.Accepted
import NNRt.Lib.WhileLoop

/-!
# The loops over the checksums

`CheckCacheInfoExtension` fills two vectors in loops that count to a number of 64 bits with
a counter of 32.

- `fill_ends`: such a loop ends with its vector filled, or with what stops it, if it stops
  in front of the last number of 32 bits.
- `loopsEnd_of_short`: the two loops do, on a list of less than `2 ^ 32` elements.
-/

namespace NNRt

section Fill

variable {β ε : Type} {fileNumber : Int64} {read : Nat → Except ε β}

/-- `i < fileNumber`, with a counter `uint32_t i`. -/
def fillGuard (fileNumber : Int64) (s : UInt32 × List β) : Bool :=
  s.1.toUInt64.toInt64 < fileNumber

/-- `list[i] = read(i); ++i`. -/
def fillRound (read : Nat → Except ε β) (s : UInt32 × List β) : Except ε (UInt32 × List β) := do
  let value ← read s.1.toNat
  return (s.1 + 1, s.2.set s.1.toNat value)

theorem fillGuard_eq (hsize : fileNumber.toUInt64.toNat ≤ vectorMaxSize) (i : UInt32)
    (list : List β) :
    fillGuard fileNumber (i, list) = decide (i.toNat < fileNumber.toUInt64.toNat) := by
  unfold fillGuard
  rw [decide_eq_decide, Int64.lt_iff_toInt_lt, toInt_widen, toInt_of_size hsize]
  exact Int.ofNat_lt

theorem fillRound_eq {i : UInt32} {list : List β} :
    fillRound read (i, list) = (read i.toNat).map fun value => (i + 1, list.set i.toNat value) := by
  unfold fillRound
  cases read i.toNat <;> rfl

/-- The rounds from the `i`-th on, on a vector that is filled up to there. -/
theorem fill_ends_from (hsize : fileNumber.toUInt64.toNat ≤ vectorMaxSize)
    (hshort : ∀ p, 2 ^ 32 - 1 ≤ p → p < fileNumber.toUInt64.toNat → ∃ e, read p = .error e)
    (zero : β) (k : Nat) {i : UInt32} {done : List β} (hdone : done.length = i.toNat)
    (hleft : i.toNat + k = fileNumber.toUInt64.toNat) :
    WhileLoop.Ends (fillGuard fileNumber) (fillRound read) (i, done ++ List.replicate k zero)
      (((List.range' i.toNat k).mapM read).map fun rest =>
        (UInt32.ofNat fileNumber.toUInt64.toNat, done ++ rest)) := by
  induction k generalizing i done with
  | zero =>
    have hi : UInt32.ofNat fileNumber.toUInt64.toNat = i := by
      rw [← hleft, Nat.add_zero, UInt32.ofNat_toNat]
    rw [hi]
    refine WhileLoop.ends_of_guard ?_
    rw [fillGuard_eq hsize]
    exact decide_eq_false (by omega)
  | succ k ih =>
    have hguard : fillGuard fileNumber (i, done ++ List.replicate (k + 1) zero) = true := by
      rw [fillGuard_eq hsize]
      exact decide_eq_true (by omega)
    rw [List.range'_succ, List.mapM_cons]
    cases hread : read i.toNat with
    | error e =>
      refine WhileLoop.ends_of_error hguard ?_
      rw [fillRound_eq, hread]
      rfl
    | ok value =>
      -- The counter does not wrap: the last number of 32 bits is not a position.
      have hnowrap : i.toNat < 2 ^ 32 - 1 := by
        by_contra hlarge
        obtain ⟨e, he⟩ := hshort i.toNat (Nat.not_lt.mp hlarge) (by omega)
        rw [hread] at he
        cases he
      have hnext : (i + 1).toNat = i.toNat + 1 := by
        rw [UInt32.toNat_add, UInt32.toNat_one]
        omega
      have hset : (done ++ List.replicate (k + 1) zero).set i.toNat value
          = (done ++ [value]) ++ List.replicate k zero := by
        rw [← hdone, List.set_append_right _ _ (Nat.le_refl _), Nat.sub_self,
          List.replicate_succ, List.set_cons_zero, List.append_assoc]
        rfl
      have hround : fillRound read (i, done ++ List.replicate (k + 1) zero)
          = .ok (i + 1, (done ++ [value]) ++ List.replicate k zero) := by
        rw [fillRound_eq, hread, Except.map, hset]
      have hrest := @ih (i + 1) (done ++ [value])
        (by rw [List.length_append, hdone, hnext, List.length_singleton]) (by omega)
      rw [hnext] at hrest
      refine WhileLoop.Ends.round hguard hround ?_
      cases hmap : (List.range' (i.toNat + 1) k).mapM read with
      | error e =>
        rw [hmap] at hrest
        exact hrest
      | ok rest =>
        have happend : (done ++ [value]) ++ rest = done ++ (value :: rest) := by
          rw [List.append_assoc]
          rfl
        rw [hmap, Except.map, happend] at hrest
        exact hrest

/-- **The loop ends** with the vector filled, or with what stopped it, where no position that
its counter cannot pass can be read. -/
theorem fill_ends (hsize : fileNumber.toUInt64.toNat ≤ vectorMaxSize)
    (hshort : ∀ p, 2 ^ 32 - 1 ≤ p → p < fileNumber.toUInt64.toNat → ∃ e, read p = .error e)
    (zero : β) :
    WhileLoop.Ends (fillGuard fileNumber) (fillRound read)
      (0, List.replicate fileNumber.toUInt64.toNat zero)
      (((List.range fileNumber.toUInt64.toNat).mapM read).map fun list =>
        (UInt32.ofNat fileNumber.toUInt64.toNat, list)) := by
  have hends := @fill_ends_from β ε fileNumber read hsize hshort zero fileNumber.toUInt64.toNat
    0 [] rfl (Nat.zero_add _)
  rw [UInt32.toNat_zero, ← List.range_eq_range'] at hends
  exact hends

end Fill

/-- `static_cast<unsigned short>(list[i])`. -/
def narrowAt (list : List Int64) (i : Nat) : Except Fault UInt16 :=
  match list[i]? with
  | some sum => .ok sum.toUInt64.toUInt16
  | none => .error .outOfBounds

/-- The two loops of `CheckCacheInfoExtension` end: the first with all numbers of the list or
with the exception of the first position that holds none, the second with the checksums. -/
structure LoopsEnd (sums : Json) (fileNumber : Int64) : Prop where
  read : WhileLoop.Ends (fillGuard fileNumber) (fillRound fun i => sums.getInt64At i)
    (0, List.replicate fileNumber.toUInt64.toNat 0)
    (((List.range fileNumber.toUInt64.toNat).mapM fun i => sums.getInt64At i).map fun list =>
      (UInt32.ofNat fileNumber.toUInt64.toNat, list))
  narrow : ∀ list,
    ((List.range fileNumber.toUInt64.toNat).mapM fun i => sums.getInt64At i) = .ok list →
      ∃ modelCheckSum, readModelCheckSum sums fileNumber.toUInt64.toNat = .ok modelCheckSum ∧
        WhileLoop.Ends (fillGuard fileNumber) (fillRound (narrowAt list))
          (0, List.replicate fileNumber.toUInt64.toNat 0)
          (.ok (UInt32.ofNat fileNumber.toUInt64.toNat, modelCheckSum))

/-- What a loop has read, position by position. -/
theorem getElem?_of_mapM_range {α ε : Type} {f : Nat → Except ε α} {n : Nat} {list : List α}
    (h : (List.range n).mapM f = .ok list) {i : Nat} (hi : i < n) :
    ∃ v, f i = .ok v ∧ list[i]? = some v := by
  obtain ⟨hlen, hget⟩ := List.forall₂_iff_get.mp (forall₂_of_mapM h)
  rw [List.length_range] at hlen
  have hpos : i < list.length := hlen ▸ hi
  have hread := hget i (by rw [List.length_range]; exact hi) hpos
  rw [List.get_eq_getElem, List.getElem_range] at hread
  exact ⟨_, hread, List.getElem?_eq_getElem hpos⟩

/-- Positions past the end of the list hold no number. -/
theorem getInt64At_short {sums : Json} {m : Nat} (hlist : ∀ xs, sums = .arr xs → xs.length ≤ m)
    {p : Nat} (hp : m ≤ p) : sums.getInt64At p = .error .typeError := by
  cases sums with
  | arr xs =>
    have hlen := hlist xs rfl
    have hnone : xs[p]? = none := List.getElem?_eq_none (by omega)
    unfold Json.getInt64At
    dsimp only
    rw [hnone]
  | null | bool b | int i | float v | str s | obj members => rfl

/-- The loops end on a list that is short enough for their counter. -/
theorem loopsEnd_of_short {sums : Json} {fileNumber : Int64}
    (hsize : fileNumber.toUInt64.toNat ≤ vectorMaxSize)
    (hlist : ∀ xs, sums = .arr xs → xs.length ≤ 2 ^ 32 - 1) : LoopsEnd sums fileNumber where
  read := fill_ends hsize (fun p hp _ => ⟨_, getInt64At_short hlist hp⟩) 0
  narrow list hread := by
    have hlen := (forall₂_of_mapM hread).length_eq
    rw [List.length_range] at hlen
    have hnarrow : (List.range fileNumber.toUInt64.toNat).mapM (narrowAt list)
        = .ok (list.map fun sum => sum.toUInt64.toUInt16) := by
      rw [mapM_eq_ok (g := fun i => (list[i]?.getD 0).toUInt64.toUInt16)]
      · refine congrArg Except.ok (List.ext_getElem ?_ fun i hi hi' => ?_)
        · rw [List.length_map, List.length_map, List.length_range, hlen]
        · rw [List.length_map] at hi'
          rw [List.getElem_map, List.getElem_map, List.getElem_range, List.getElem?_eq_getElem hi']
          rfl
      · intro i hi
        have hpos : i < list.length := by
          rw [← hlen]
          exact List.mem_range.mp hi
        unfold narrowAt
        rw [List.getElem?_eq_getElem hpos]
        rfl
    refine ⟨list.map fun sum => sum.toUInt64.toUInt16, ?_, ?_⟩
    · rw [readModelCheckSum, hread]
      rfl
    · have hends := @fill_ends UInt16 Fault fileNumber (narrowAt list) hsize (fun p hp hlt => ?_) 0
      · rw [hnarrow] at hends
        exact hends
      · obtain ⟨v, hv, -⟩ := getElem?_of_mapM_range hread hlt
        rw [getInt64At_short hlist hp] at hv
        cases hv

end NNRt
