import Mathlib.Algebra.Order.Ring.Nat
import Mathlib.Algebra.BigOperators.Group.List.Basic

/-!
# Blocks packed one after the other

A list of blocks is written to a memory from some offset on, each behind the one
before it. An empty block takes no room.

- `start`: where a block begins, which is the lengths of those before it.
- `start_add_le`: a block ends before a later one begins, and all of them within
  the total length.
- `fill_at`: in the end each block is found where it begins.
- `fill_outside`: no other cell has changed.
-/

namespace Packing

variable {α : Type*}

/-- Write a block to a memory. -/
def writeAt (memory : Nat → α) (offset : Nat) (block : List α) : Nat → α :=
  fun i => if offset ≤ i then (block[i - offset]?).getD (memory i) else memory i

/-- Write blocks one after the other. -/
def fill (memory : Nat → α) (offset : Nat) : List (List α) → Nat → α
  | [] => memory
  | block :: blocks => fill (writeAt memory offset block) (offset + block.length) blocks

/-- The length of all blocks. -/
def total (blocks : List (List α)) : Nat :=
  (blocks.map List.length).sum

/-- Shorter blocks are shorter in total. -/
theorem total_map_le {β : Type*} {f g : β → List α} (h : ∀ x, (f x).length ≤ (g x).length)
    (xs : List β) : total (xs.map f) ≤ total (xs.map g) := by
  induction xs with
  | nil => exact Nat.le_refl _
  | cons x xs ih =>
    show total (f x :: xs.map f) ≤ total (g x :: xs.map g)
    unfold total at ih ⊢
    rw [List.map_cons, List.map_cons, List.sum_cons, List.sum_cons]
    exact Nat.add_le_add (h x) ih

/-- Where a block begins. -/
def start (offset : Nat) (blocks : List (List α)) (i : Nat) : Nat :=
  offset + total (blocks.take i)

variable {memory : Nat → α} {offset i j k : Nat} {block : List α} {blocks : List (List α)}

@[simp] theorem total_nil : total ([] : List (List α)) = 0 := rfl

@[simp] theorem total_cons (block : List α) (blocks : List (List α)) :
    total (block :: blocks) = block.length + total blocks := by
  simp [total]

@[simp] theorem start_zero (offset : Nat) (blocks : List (List α)) : start offset blocks 0 = offset :=
  rfl

theorem start_cons_succ (offset : Nat) (block : List α) (blocks : List (List α)) (i : Nat) :
    start offset (block :: blocks) (i + 1) = start (offset + block.length) blocks i := by
  unfold start
  rw [List.take_succ_cons, total_cons, Nat.add_assoc]

/-- The next block begins where a block ends. -/
theorem start_succ (h : blocks[i]? = some block) :
    start offset blocks (i + 1) = start offset blocks i + block.length := by
  induction blocks generalizing offset i with
  | nil => cases h
  | cons b blocks ih =>
    cases i with
    | zero =>
      cases h
      rw [start_cons_succ]
      rfl
    | succ i =>
      rw [start_cons_succ, start_cons_succ]
      exact ih h

theorem start_mono (h : i ≤ j) : start offset blocks i ≤ start offset blocks j := by
  induction blocks generalizing offset i j with
  | nil => simp [start]
  | cons b blocks ih =>
    cases j with
    | zero =>
      obtain rfl : i = 0 := Nat.le_zero.mp h
      exact Nat.le_refl _
    | succ j =>
      cases i with
      | zero =>
        have hfirst : offset + b.length ≤ start (offset + b.length) blocks j := ih (Nat.zero_le j)
        rw [start_cons_succ, start_zero]
        omega
      | succ i =>
        rw [start_cons_succ, start_cons_succ]
        exact ih (Nat.le_of_succ_le_succ h)

theorem start_le_total (offset : Nat) (blocks : List (List α)) (i : Nat) :
    start offset blocks i ≤ offset + total blocks := by
  induction blocks generalizing offset i with
  | nil => simp [start]
  | cons b blocks ih =>
    cases i with
    | zero => exact Nat.le_add_right _ _
    | succ i =>
      have h := ih (offset + b.length) i
      rw [start_cons_succ, total_cons]
      omega

/-- Blocks do not overlap. -/
theorem start_add_le (h : blocks[i]? = some block) (hij : i < j) :
    start offset blocks i + block.length ≤ start offset blocks j := by
  rw [← start_succ h]
  exact start_mono hij

/-- Every block ends within the total length. -/
theorem start_add_le_total (h : blocks[i]? = some block) :
    start offset blocks i + block.length ≤ offset + total blocks := by
  rw [← start_succ h]
  exact start_le_total offset blocks (i + 1)

/-! ## Memory -/

theorem writeAt_at (hk : k < block.length) :
    writeAt memory offset block (offset + k) = block[k] := by
  unfold writeAt
  rw [if_pos (Nat.le_add_right _ _), Nat.add_sub_cancel_left, List.getElem?_eq_getElem hk,
    Option.getD_some]

theorem writeAt_outside (h : i < offset ∨ offset + block.length ≤ i) :
    writeAt memory offset block i = memory i := by
  unfold writeAt
  split
  · rw [List.getElem?_eq_none (by omega), Option.getD_none]
  · rfl

@[simp] theorem writeAt_nil (memory : Nat → α) (offset : Nat) :
    writeAt memory offset [] = memory := by
  funext i
  simp [writeAt]

/-- Nothing changes outside the packed blocks. -/
theorem fill_outside (h : i < offset ∨ offset + total blocks ≤ i) :
    fill memory offset blocks i = memory i := by
  induction blocks generalizing memory offset with
  | nil => rfl
  | cons b blocks ih =>
    rw [total_cons] at h
    show fill (writeAt memory offset b) (offset + b.length) blocks i = memory i
    rw [ih (by omega), writeAt_outside (by omega)]

/-- **Every block is found where it begins.** -/
theorem fill_at (h : blocks[i]? = some block) (hk : k < block.length) :
    fill memory offset blocks (start offset blocks i + k) = block[k] := by
  induction blocks generalizing memory offset i with
  | nil => cases h
  | cons b blocks ih =>
    cases i with
    | zero =>
      -- The blocks behind it are written elsewhere.
      obtain rfl : b = block := Option.some.inj h
      show fill (writeAt memory offset b) (offset + b.length) blocks (offset + k) = b[k]
      rw [fill_outside (by omega), writeAt_at hk]
    | succ i =>
      rw [start_cons_succ]
      exact ih h

end Packing
