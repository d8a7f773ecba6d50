import Mathlib.Data.List.Basic
import Mathlib.Order.Monotone.Basic

/-!
# Renumbering the kept elements of a list

A pass over a list that keeps some of its elements gives each kept element the
number of kept elements before it. `pairs` is the table such a pass builds, old
index and new number.

- `lookup_eq_some_iff`: the table has an entry exactly for the kept elements.
- `getElem?_filter_of_lookup`: the new number is the position in the list of
  the kept elements.
- `lookup_strictMono`: **the numbering preserves the order**, so it is
  injective.
-/

namespace Renumber

variable {α : Type*} {keep : α → Bool}

/-- The table, with indices counted from `i` and numbers from `n`. -/
def pairs (keep : α → Bool) (i n : Nat) : List α → List (Nat × Nat)
  | [] => []
  | x :: xs => if keep x then (i, n) :: pairs keep (i + 1) (n + 1) xs else pairs keep (i + 1) n xs

/-- No index below the first is in the table. -/
theorem lookup_eq_none_of_lt {i n j : Nat} (xs : List α) (h : j < i) :
    (pairs keep i n xs).lookup j = none := by
  induction xs generalizing i n with
  | nil => rfl
  | cons x xs ih =>
    have hrest : ∀ n, (pairs keep (i + 1) n xs).lookup j = none := fun n => ih (by omega)
    by_cases hx : keep x
    · have hne : (j == i) = false := by simpa using Nat.ne_of_lt h
      simp only [pairs, hx, if_true, List.lookup_cons, hne]
      exact hrest _
    · simp only [pairs, hx, Bool.false_eq_true, if_false]
      exact hrest _

/-- **What the table says**: the entry of a kept element is its number, and
there are no others. -/
theorem lookup_eq_some_iff {i n j k : Nat} (xs : List α) :
    (pairs keep i n xs).lookup (i + j) = some k ↔
      ∃ x, xs[j]? = some x ∧ keep x = true ∧ k = n + (xs.take j).countP keep := by
  induction xs generalizing i n j with
  | nil => simp [pairs]
  | cons x xs ih =>
    cases j with
    | zero =>
      by_cases hx : keep x
      · have hget : (pairs keep i n (x :: xs)).lookup (i + 0) = some n := by simp [pairs, hx]
        rw [hget]
        simp only [List.getElem?_cons_zero, Option.some.injEq, List.take_zero, List.countP_nil,
          Nat.add_zero, exists_eq_left', hx, true_and]
        exact eq_comm
      · have hnone : (pairs keep i n (x :: xs)).lookup (i + 0) = none := by
          simp only [pairs, hx, Bool.false_eq_true, if_false]
          exact lookup_eq_none_of_lt xs (by omega)
        rw [hnone]
        simp [hx]
    | succ j =>
      have hshift : i + (j + 1) = i + 1 + j := by omega
      have hne : (i + 1 + j == i) = false := by simp; omega
      by_cases hx : keep x
      · simp only [pairs, hx, if_true, List.lookup_cons, hshift, hne, ih,
          List.getElem?_cons_succ, List.take_succ_cons, List.countP_cons_of_pos]
        grind
      · simp only [pairs, hx, Bool.false_eq_true, if_false, hshift, ih,
          List.getElem?_cons_succ, List.take_succ_cons]
        simp [hx]

/-- The kept elements, in order, are numbered from 0 on. -/
theorem getElem?_filter {xs : List α} {j : Nat} {x : α} (hget : xs[j]? = some x)
    (hx : keep x = true) : (xs.filter keep)[(xs.take j).countP keep]? = some x := by
  induction xs generalizing j with
  | nil => simp at hget
  | cons y ys ih =>
    cases j with
    | zero =>
      simp only [List.getElem?_cons_zero, Option.some.injEq] at hget
      subst hget
      simp [hx]
    | succ j =>
      rw [List.getElem?_cons_succ] at hget
      by_cases hy : keep y
      · simpa [hy] using ih hget
      · simpa [hy] using ih hget

/-- The number of a kept element is its position among the kept elements. -/
theorem getElem?_filter_of_lookup {xs : List α} {j k : Nat}
    (h : (pairs keep 0 0 xs).lookup j = some k) : (xs.filter keep)[k]? = xs[j]? := by
  rw [← Nat.zero_add j, lookup_eq_some_iff] at h
  obtain ⟨x, hget, hx, rfl⟩ := h
  rw [Nat.zero_add, getElem?_filter hget hx, hget]

/-- A number is a position in the list of the kept elements. -/
theorem lt_length_filter_of_lookup {xs : List α} {j k : Nat}
    (h : (pairs keep 0 0 xs).lookup j = some k) : k < (xs.filter keep).length := by
  have hget := getElem?_filter_of_lookup h
  rw [← Nat.zero_add j, lookup_eq_some_iff] at h
  obtain ⟨x, hx, -, -⟩ := h
  rw [hx] at hget
  exact (List.getElem?_eq_some_iff.mp hget).1

/-- Exactly the kept elements are in the table. -/
theorem lookup_isSome_iff {xs : List α} {j : Nat} :
    ((pairs keep 0 0 xs).lookup j).isSome ↔ ∃ x, xs[j]? = some x ∧ keep x = true := by
  rw [Option.isSome_iff_exists]
  constructor
  · rintro ⟨k, h⟩
    rw [← Nat.zero_add j, lookup_eq_some_iff] at h
    obtain ⟨x, hget, hx, -⟩ := h
    exact ⟨x, hget, hx⟩
  · rintro ⟨x, hget, hx⟩
    refine ⟨(xs.take j).countP keep, ?_⟩
    rw [← Nat.zero_add j, lookup_eq_some_iff]
    exact ⟨x, hget, hx, by simp⟩

/-- **The numbering preserves the order.** -/
theorem lookup_strictMono {xs : List α} {i j k l : Nat}
    (hi : (pairs keep 0 0 xs).lookup i = some k) (hj : (pairs keep 0 0 xs).lookup j = some l)
    (hij : i < j) : k < l := by
  rw [← Nat.zero_add i, lookup_eq_some_iff] at hi
  rw [← Nat.zero_add j, lookup_eq_some_iff] at hj
  obtain ⟨x, hx, hkeep, rfl⟩ := hi
  obtain ⟨-, -, -, rfl⟩ := hj
  -- Up to `j` the pass has seen everything up to `i`, and the kept element at `i`.
  have hsub : (xs.take (i + 1)).countP keep ≤ (xs.take j).countP keep :=
    (List.take_sublist_take_left (by omega)).countP_le
  have hlast : (xs.take (i + 1)).countP keep = (xs.take i).countP keep + 1 := by
    rw [List.take_add_one, hx, List.countP_append]
    simp [hkeep]
  omega

/-- Different elements have different numbers. -/
theorem lookup_injective {xs : List α} {i j k : Nat}
    (hi : (pairs keep 0 0 xs).lookup i = some k) (hj : (pairs keep 0 0 xs).lookup j = some k) :
    i = j := by
  rcases Nat.lt_trichotomy i j with h | h | h
  · exact absurd (lookup_strictMono hi hj h) (Nat.lt_irrefl k)
  · exact h
  · exact absurd (lookup_strictMono hj hi h) (Nat.lt_irrefl k)

end Renumber
