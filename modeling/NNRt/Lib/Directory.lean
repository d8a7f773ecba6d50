import Mathlib.Logic.Function.Basic
import Mathlib.Data.List.Nodup

/-!
# Finite maps under a sequence of writes

A directory is a map from names to contents, as a total function into
`Option`; a write replaces one entry. The module is about what a *sequence* of
writes leaves behind.

- `writeAll_other`: a name that no write touches keeps its content.
- `writeAll_mem`: when the names are pairwise different, every write is there
  at the end.
- `writeAll_eq_some_iff`: exactly when a given content survives a sequence of
  writes with pairwise different names.
-/

namespace Directory

universe u v

variable {κ : Type u} {β : Type v} [DecidableEq κ]

/-- Replace the entry `k`. -/
def write (d : κ → Option β) (k : κ) (v : β) : κ → Option β :=
  Function.update d k (some v)

/-- A sequence of writes, first one first. -/
def writeAll (d : κ → Option β) : List (κ × β) → κ → Option β
  | [] => d
  | (k, v) :: ws => writeAll (write d k v) ws

@[simp] theorem write_self (d : κ → Option β) (k : κ) (v : β) : write d k v k = some v := by
  simp [write]

theorem write_other (d : κ → Option β) {k x : κ} (v : β) (h : x ≠ k) :
    write d k v x = d x := by
  simp [write, h]

@[simp] theorem writeAll_nil (d : κ → Option β) : writeAll d [] = d := rfl

@[simp] theorem writeAll_cons (d : κ → Option β) (w : κ × β) (ws : List (κ × β)) :
    writeAll d (w :: ws) = writeAll (write d w.1 w.2) ws := rfl

/-- A name that no write touches keeps its content. -/
theorem writeAll_other {ws : List (κ × β)} {x : κ} (h : ∀ w ∈ ws, w.1 ≠ x)
    (d : κ → Option β) : writeAll d ws x = d x := by
  induction ws generalizing d with
  | nil => rfl
  | cons w ws ih =>
    have hw : w.1 ≠ x := h w List.mem_cons_self
    rw [writeAll_cons, ih (fun v hv => h v (List.mem_cons_of_mem _ hv))]
    exact write_other d w.2 (Ne.symm hw)

/-- With pairwise different names, every write is there at the end. -/
theorem writeAll_mem {ws : List (κ × β)} (hnd : (ws.map Prod.fst).Nodup)
    (d : κ → Option β) {w : κ × β} (hw : w ∈ ws) : writeAll d ws w.1 = some w.2 := by
  induction ws generalizing d with
  | nil => cases hw
  | cons v ws ih =>
    obtain ⟨hv, hnd⟩ := List.nodup_cons.mp hnd
    rw [writeAll_cons]
    rcases List.mem_cons.mp hw with rfl | hw
    · rw [writeAll_other _ (write d w.1 w.2), write_self]
      intro u hu heq
      exact hv (heq ▸ List.mem_map_of_mem hu)
    · exact ih hnd (write d v.1 v.2) hw

/-- **What survives**: a content that was there before is there after the
writes exactly when every write to that name writes the same content again. -/
theorem writeAll_eq_some_iff {ws : List (κ × β)} (hnd : (ws.map Prod.fst).Nodup)
    {d : κ → Option β} {x : κ} {c : β} (hx : d x = some c) :
    writeAll d ws x = some c ↔ ∀ w ∈ ws, w.1 = x → w.2 = c := by
  constructor
  · intro h w hw heq
    have hwrite := writeAll_mem hnd d hw
    rw [heq, h] at hwrite
    exact (Option.some.inj hwrite).symm
  · intro h
    by_cases hmem : ∃ w ∈ ws, w.1 = x
    · obtain ⟨w, hw, rfl⟩ := hmem
      rw [writeAll_mem hnd d hw, h w hw rfl]
    · rw [writeAll_other _ d, hx]
      intro w hw heq
      exact hmem ⟨w, hw, heq⟩

end Directory
