import Mathlib.Data.List.Basic

/-!
# Parts written one after the other

A text made of parts without a separator does not say where a part ends, so two lists
of parts may spell the same text.

- `Ahead`: one list is ahead of the other by a surplus, and from there both come to the
  same end.
- `RunsTogether`: up to the first difference the parts are the same, and from there one
  list is ahead.
- `runsTogether_iff`: **these are exactly the lists a text confuses**.
-/

namespace Concat

variable {α : Type*}

/-- What has been read of the left list is longer by `r` than what has been read of the
right one; its next parts are `xs`, those of the right list `ys`. A part of the right list
is within the surplus, or reaches beyond it and puts the right list ahead. -/
inductive Ahead : List α → List (List α) → List (List α) → Prop
  | done {xs} : (∀ x ∈ xs, x = []) → Ahead [] xs []
  | within {r y xs ys} : Ahead r xs ys → Ahead (y ++ r) xs (y :: ys)
  | beyond {r s xs ys} : s ≠ [] → Ahead s ys xs → Ahead r xs ((r ++ s) :: ys)

/-- Two lists of parts that differ and spell the same text: at the first difference a part
of one list begins with that of the other, or one list has nothing but empty parts left. -/
inductive RunsTogether : List (List α) → List (List α) → Prop
  | left {p r xs ys} : r ≠ [] → Ahead r xs ys → RunsTogether ((p ++ r) :: xs) (p :: ys)
  | right {p r xs ys} : r ≠ [] → Ahead r ys xs → RunsTogether (p :: xs) ((p ++ r) :: ys)
  | spareLeft {x xs} : (∀ z ∈ x :: xs, z = []) → RunsTogether (x :: xs) []
  | spareRight {y ys} : (∀ z ∈ y :: ys, z = []) → RunsTogether [] (y :: ys)
  | next {x xs ys} : RunsTogether xs ys → RunsTogether (x :: xs) (x :: ys)

variable {r : List α} {xs ys : List (List α)}

/-- A list that is ahead spells, with its surplus, what the other one spells. -/
theorem Ahead.append_flatten (h : Ahead r xs ys) : r ++ xs.flatten = ys.flatten := by
  induction h with
  | done hempty => simpa using hempty
  | within _ ih => rw [List.append_assoc, ih, List.flatten_cons]
  | beyond _ _ ih => rw [List.flatten_cons, List.append_assoc, ih]

/-- The other way round, by what is left of both lists. -/
theorem ahead_of_append_flatten (h : r ++ xs.flatten = ys.flatten) : Ahead r xs ys := by
  induction hn : xs.length + ys.length using Nat.strongRecOn generalizing r xs ys with
  | ind n ih =>
    cases ys with
    | nil =>
      obtain ⟨rfl, hempty⟩ := List.append_eq_nil_iff.mp h
      exact .done (List.flatten_eq_nil_iff.mp hempty)
    | cons y ys =>
      rw [List.length_cons] at hn
      rw [List.flatten_cons, List.append_eq_append_iff] at h
      obtain ⟨s, rfl, hs⟩ | ⟨r, rfl, hr⟩ := h
      · by_cases hnil : s = []
        · subst hnil
          rw [List.append_nil]
          have hstep : Ahead [] xs ys := ih _ (by omega) (by simpa using hs) rfl
          simpa using hstep.within (y := r)
        · exact .beyond hnil (ih _ (by omega) hs.symm rfl)
      · exact (ih _ (by omega) hr.symm rfl).within

theorem ahead_iff : Ahead r xs ys ↔ r ++ xs.flatten = ys.flatten :=
  ⟨Ahead.append_flatten, ahead_of_append_flatten⟩

theorem RunsTogether.flatten_eq (h : RunsTogether xs ys) : xs.flatten = ys.flatten := by
  induction h with
  | left _ h => rw [List.flatten_cons, List.append_assoc, h.append_flatten, List.flatten_cons]
  | right _ h => rw [List.flatten_cons, List.flatten_cons, List.append_assoc, h.append_flatten]
  | spareLeft h => exact List.flatten_eq_nil_iff.mpr h
  | spareRight h => exact (List.flatten_eq_nil_iff.mpr h).symm
  | next _ ih => rw [List.flatten_cons, List.flatten_cons, ih]

theorem RunsTogether.ne (h : RunsTogether xs ys) : xs ≠ ys := by
  induction h with
  | left hr _ => exact fun heq => hr (by simpa using (List.cons.inj heq).1)
  | right hr _ => exact fun heq => hr (by simpa using (List.cons.inj heq).1)
  | spareLeft => exact List.cons_ne_nil _ _
  | spareRight => exact (List.cons_ne_nil _ _).symm
  | next _ ih => exact fun heq => ih (List.cons.inj heq).2

/-- By the lists side by side, up to the first difference. -/
theorem runsTogether_of_flatten_eq (hne : xs ≠ ys) (h : xs.flatten = ys.flatten) :
    RunsTogether xs ys := by
  induction xs generalizing ys with
  | nil =>
    cases ys with
    | nil => exact absurd rfl hne
    | cons y ys => exact .spareRight (List.flatten_eq_nil_iff.mp h.symm)
  | cons x xs ih =>
    cases ys with
    | nil => exact .spareLeft (List.flatten_eq_nil_iff.mp h)
    | cons y ys =>
      by_cases heq : x = y
      · subst heq
        have hrest : xs.flatten = ys.flatten := by simpa using h
        exact (ih (fun he => hne (by rw [he])) hrest).next
      · rw [List.flatten_cons, List.flatten_cons, List.append_eq_append_iff] at h
        obtain ⟨r, rfl, hr⟩ | ⟨r, rfl, hr⟩ := h
        · exact .right (by simpa using heq) (ahead_iff.mpr hr.symm)
        · exact .left (by simpa using heq) (ahead_iff.mpr hr.symm)

/-- **What a text confuses**: different lists of parts that spell it run together. -/
theorem runsTogether_iff : RunsTogether xs ys ↔ xs ≠ ys ∧ xs.flatten = ys.flatten :=
  ⟨fun h => ⟨h.ne, h.flatten_eq⟩, fun h => runsTogether_of_flatten_eq h.1 h.2⟩

/-- Where they do not run together, the text tells the lists apart. -/
theorem not_runsTogether_iff :
    ¬ RunsTogether xs ys ↔ (xs.flatten = ys.flatten → xs = ys) := by
  rw [runsTogether_iff]
  tauto

/-- Parts of the same lengths never run together. -/
theorem not_runsTogether_of_lengths (h : xs.map List.length = ys.map List.length) :
    ¬ RunsTogether xs ys :=
  fun htogether =>
    htogether.ne (List.eq_iff_flatten_eq.mpr ⟨htogether.flatten_eq, h⟩)

end Concat
