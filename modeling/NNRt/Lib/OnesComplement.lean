import Mathlib.Data.Nat.ModEq

/-!
# Sums with end-around carries

A number is folded into one digit of base `b` by adding what is above the lowest digit to
that digit until nothing is above it. The fold keeps the residue modulo `b - 1`, and it
is zero for zero only, so that the residue of a positive number determines it.

- `fold_eq_fold_iff`: positive numbers have one fold if they agree modulo `b - 1`.
- `fold_add_ne`: **a sum kept modulo `m` shows every small change**, where `m` leaves the
  residue one: also a change that makes the sum wrap around.
-/

namespace OnesComplement

/-- The digit that is left. -/
def fold (b : Nat) (hb : 2 ≤ b) (n : Nat) : Nat :=
  if n < b then n else fold b hb (n / b + n % b)
termination_by n
decreasing_by
  rename_i h
  have hdiv := Nat.div_add_mod n b
  have hpos : 0 < n / b := Nat.div_pos (Nat.le_of_not_lt h) (by omega)
  have hmul : 2 * (n / b) ≤ b * (n / b) := Nat.mul_le_mul_right _ hb
  omega

variable {b : Nat} {hb : 2 ≤ b} {m n : Nat}

theorem fold_of_lt (h : n < b) : fold b hb n = n := by
  rw [fold, if_pos h]

theorem fold_of_le (h : b ≤ n) : fold b hb n = fold b hb (n / b + n % b) := by
  rw [fold, if_neg (Nat.not_lt.mpr h)]

/-- A base is one more than a multiple of its predecessor. -/
theorem base_modEq (hb : 2 ≤ b) : b ≡ 1 [MOD b - 1] := by
  have h : b = 1 + (b - 1) := by omega
  calc b = 1 + (b - 1) := h
    _ ≡ 1 [MOD b - 1] := Nat.add_modEq_right

/-- One carry keeps the residue. -/
theorem carry_modEq (hb : 2 ≤ b) (n : Nat) : n / b + n % b ≡ n [MOD b - 1] := by
  calc n / b + n % b = 1 * (n / b) + n % b := by rw [Nat.one_mul]
    _ ≡ b * (n / b) + n % b [MOD b - 1] := ((base_modEq hb).symm.mul_right _).add_right _
    _ = n := Nat.div_add_mod n b

theorem fold_modEq (n : Nat) : fold b hb n ≡ n [MOD b - 1] := by
  induction n using fold.induct b hb with
  | case1 n h => rw [fold_of_lt h]
  | case2 n h ih =>
    rw [fold_of_le (Nat.not_lt.mp h)]
    exact ih.trans (carry_modEq hb n)

theorem fold_lt (n : Nat) : fold b hb n < b := by
  induction n using fold.induct b hb with
  | case1 n h => rwa [fold_of_lt h]
  | case2 n h ih => rwa [fold_of_le (Nat.not_lt.mp h)]

/-- Only zero is folded to zero. -/
theorem fold_pos (hn : 0 < n) : 0 < fold b hb n := by
  induction n using fold.induct b hb with
  | case1 n h => rwa [fold_of_lt h]
  | case2 n h ih =>
    rw [fold_of_le (Nat.not_lt.mp h)]
    exact ih (Nat.add_pos_left (Nat.div_pos (Nat.not_lt.mp h) (by omega)) _)

/-- Digits other than zero are told apart by their residues. -/
theorem digit_eq_of_modEq (hm : 0 < m) (hmb : m < b) (hn : 0 < n) (hnb : n < b)
    (h : m ≡ n [MOD b - 1]) : m = n := by
  obtain ⟨m, rfl⟩ : ∃ k, m = k + 1 := ⟨m - 1, by omega⟩
  obtain ⟨n, rfl⟩ : ∃ k, n = k + 1 := ⟨n - 1, by omega⟩
  have hlow : m ≡ n [MOD b - 1] := Nat.ModEq.add_right_cancel' 1 h
  rw [Nat.ModEq, Nat.mod_eq_of_lt (by omega), Nat.mod_eq_of_lt (by omega)] at hlow
  rw [hlow]

/-- **The fold of a positive number** is its residue. -/
theorem fold_eq_fold_iff (hm : 0 < m) (hn : 0 < n) :
    fold b hb m = fold b hb n ↔ m ≡ n [MOD b - 1] := by
  constructor
  · intro h
    calc m ≡ fold b hb m [MOD b - 1] := (fold_modEq m).symm
      _ = fold b hb n := h
      _ ≡ n [MOD b - 1] := fold_modEq n
  · intro h
    exact digit_eq_of_modEq (fold_pos hm) (fold_lt m) (fold_pos hn) (fold_lt n)
      ((fold_modEq m).trans (h.trans (fold_modEq n).symm))

theorem fold_ne_of_zero (hm : m = 0) (hn : 0 < n) : fold b hb m ≠ fold b hb n := by
  rw [hm, fold_of_lt (show 0 < b by omega)]
  exact (fold_pos hn).ne

/-- A number below the modulus is not a multiple of it. -/
theorem not_modEq_zero {d k : Nat} (hd : 0 < d) (hdk : d < k) : ¬ d ≡ 0 [MOD k] := by
  intro h
  rw [Nat.ModEq, Nat.zero_mod, Nat.mod_eq_of_lt hdk] at h
  omega

/-- **Small changes show**, in a sum that is kept modulo `m`. -/
theorem fold_add_ne {s d : Nat} (hm : m ≡ 1 [MOD b - 1]) (hs : s < m) (hd : 0 < d)
    (hdb : d < b - 1) (hdm : d < m) : fold b hb ((s + d) % m) ≠ fold b hb s := by
  by_cases hwrap : s + d < m
  · -- No wrap: equal folds would make the change a multiple of the base less one.
    rw [Nat.mod_eq_of_lt hwrap]
    rcases Nat.eq_zero_or_pos s with hzero | hpos
    · exact (fold_ne_of_zero hzero (by omega)).symm
    · intro heq
      have hmod := (fold_eq_fold_iff (by omega) hpos).mp heq
      exact not_modEq_zero hd hdb (Nat.ModEq.add_left_cancel' s hmod)
  · have hsum : (s + d) % m = s + d - m := by
      rw [Nat.mod_eq_sub_mod (Nat.not_lt.mp hwrap), Nat.mod_eq_of_lt (by omega)]
    rw [hsum]
    rcases Nat.eq_zero_or_pos (s + d - m) with hzero | hpos
    · exact fold_ne_of_zero hzero (by omega)
    · intro heq
      have hmod := (fold_eq_fold_iff hpos (by omega)).mp heq
      -- The carry that is lost is worth one, so the change would have been one.
      have hone : s + d ≡ s + 1 [MOD b - 1] := by
        calc s + d = (s + d - m) + m := by omega
          _ ≡ s + 1 [MOD b - 1] := hmod.add hm
      have hdone : d = 1 :=
        digit_eq_of_modEq hd (by omega) Nat.one_pos (by omega) (Nat.ModEq.add_left_cancel' s hone)
      omega

end OnesComplement
