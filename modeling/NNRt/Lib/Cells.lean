import Mathlib.Data.List.Basic
import Mathlib.Data.List.Nodup

/-!
# Cells behind references

A store of shared cells is a list; a reference is a position. A sequence of
updates changes each cell by a function of what it holds.

- `updateAll_other`: a cell that no update names keeps its content.
- `updateAll_mem`: with pairwise different references, every update is applied
  once, to what the cell held at first.
- `updateAll_kept_iff`: exactly when a set of cells comes out as it went in.
-/

namespace Cells

universe u v

variable {α : Type u} {β : Type v} {f : α → β → α}

/-- A sequence of updates, first one first. -/
def updateAll (f : α → β → α) (cells : List α) : List (Nat × β) → List α
  | [] => cells
  | (ref, b) :: us => updateAll f (cells.modify ref (f · b)) us

@[simp] theorem updateAll_nil (cells : List α) : updateAll f cells [] = cells := rfl

@[simp] theorem updateAll_cons (cells : List α) (u : Nat × β) (us : List (Nat × β)) :
    updateAll f cells (u :: us) = updateAll f (cells.modify u.1 (f · u.2)) us := rfl

@[simp] theorem length_updateAll (cells : List α) (us : List (Nat × β)) :
    (updateAll f cells us).length = cells.length := by
  induction us generalizing cells with
  | nil => rfl
  | cons u us ih => rw [updateAll_cons, ih, List.length_modify]

/-- A cell that no update names keeps its content. -/
theorem updateAll_other {us : List (Nat × β)} {ref : Nat} (h : ∀ u ∈ us, u.1 ≠ ref)
    (cells : List α) : (updateAll f cells us)[ref]? = cells[ref]? := by
  induction us generalizing cells with
  | nil => rfl
  | cons u us ih =>
    rw [updateAll_cons, ih fun v hv => h v (List.mem_cons_of_mem _ hv)]
    exact List.getElem?_modify_ne _ _ (h u List.mem_cons_self)

/-- With pairwise different references, an update sees what the cell held at first. -/
theorem updateAll_mem {us : List (Nat × β)} (hnd : (us.map Prod.fst).Nodup) (cells : List α)
    {u : Nat × β} (hu : u ∈ us) :
    (updateAll f cells us)[u.1]? = cells[u.1]?.map (f · u.2) := by
  induction us generalizing cells with
  | nil => cases hu
  | cons v us ih =>
    obtain ⟨hv, hnd⟩ := List.nodup_cons.mp hnd
    rw [updateAll_cons]
    rcases List.mem_cons.mp hu with rfl | hu
    · -- The first update is the only one to this cell.
      rw [updateAll_other, List.getElem?_modify_eq]
      · rfl
      · intro w hw heq
        exact hv (heq ▸ List.mem_map_of_mem hw)
    · rw [ih hnd _ hu, List.getElem?_modify_ne]
      intro heq
      exact hv (heq ▸ List.mem_map_of_mem hu)

/-- **What comes out as it went in**: a set of cells is the same after the updates
exactly when every update to one of them changes nothing. -/
theorem updateAll_kept_iff {us : List (Nat × β)} (hnd : (us.map Prod.fst).Nodup)
    (cells : List α) (shared : Nat → Prop) :
    (∀ ref, shared ref → (updateAll f cells us)[ref]? = cells[ref]?) ↔
      ∀ u ∈ us, shared u.1 → ∀ a, cells[u.1]? = some a → f a u.2 = a := by
  constructor
  · intro h u hu hshared a ha
    have hkept := h u.1 hshared
    rw [updateAll_mem hnd cells hu, ha] at hkept
    exact Option.some.inj hkept
  · intro h ref hshared
    by_cases hmem : ∃ u ∈ us, u.1 = ref
    · obtain ⟨u, hu, rfl⟩ := hmem
      rw [updateAll_mem hnd cells hu]
      cases ha : cells[u.1]? with
      | none => rfl
      | some a =>
        show some (f a u.2) = some a
        rw [h u hu hshared a ha]
    · exact updateAll_other (fun u hu heq => hmem ⟨u, hu, heq⟩) cells

end Cells
