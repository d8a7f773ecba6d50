import Mathlib.Data.List.AList

/-!
# Hash maps whose order is left open

A map is its entries in the order an iteration visits them, with one entry for
each key. Adding an entry may move all the others, since the table may be
rebuilt: `Order` is one way to do this, and nothing is assumed of it but that no
entry is lost. Removing an entry keeps the order of the rest.

- `lookup_emplace_self`, `lookup_emplace_other`: what an addition changes.
- `first?_erase`: removing another key does not change what comes first.
- `eraseAll`: the same for a list of keys.
-/

variable {κ ν : Type*} [DecidableEq κ]

/-- A hash map, in the order of its iteration. -/
abbrev UnorderedMap (κ ν : Type*) := AList fun _ : κ => ν

namespace UnorderedMap

/-- Where the entries of a table stand after one has been added. -/
structure Order (κ ν : Type*) where
  arrange : UnorderedMap κ ν → UnorderedMap κ ν
  perm : ∀ m, (arrange m).entries.Perm m.entries

/-- The new entry comes first and the rest stay as they are. -/
def Order.newFirst : Order κ ν where
  arrange m := m
  perm _ := List.Perm.refl _

/-- `emplace`: a key that is there keeps its value. -/
def emplace (m : UnorderedMap κ ν) (k : κ) (v : ν) (order : Order κ ν) : UnorderedMap κ ν :=
  if k ∈ m then m else order.arrange (m.insert k v)

/-- What `begin()` points to. -/
def first? (m : UnorderedMap κ ν) : Option (κ × ν) :=
  m.entries.head?.map fun e => (e.1, e.2)

variable {m : UnorderedMap κ ν} {k k' : κ} {v : ν} {order : Order κ ν}

theorem lookup_arrange (order : Order κ ν) (m : UnorderedMap κ ν) (k : κ) :
    (order.arrange m).lookup k = m.lookup k :=
  AList.perm_lookup (order.perm m)

theorem lookup_emplace_self (h : k ∉ m) : (m.emplace k v order).lookup k = some v := by
  unfold emplace
  rw [if_neg h, lookup_arrange, AList.lookup_insert]

theorem lookup_emplace_other (h : k' ≠ k) : (m.emplace k v order).lookup k' = m.lookup k' := by
  unfold emplace
  split
  · rfl
  · rw [lookup_arrange, AList.lookup_insert_ne h]

theorem mem_emplace : k' ∈ m.emplace k v order ↔ k' = k ∨ k' ∈ m := by
  unfold emplace
  split
  next h =>
    refine ⟨Or.inr, ?_⟩
    rintro (rfl | h')
    · exact h
    · exact h'
  next =>
    rw [AList.mem_of_perm (order.perm _), AList.mem_insert]

omit [DecidableEq κ] in
/-- Only an empty map has no first entry. -/
theorem first?_eq_none_iff : m.first? = none ↔ m.entries = [] := by
  unfold first?
  rw [Option.map_eq_none_iff, List.head?_eq_none_iff]

/-- The first entry is found under its key. -/
theorem lookup_of_first? (h : m.first? = some (k, v)) : m.lookup k = some v := by
  unfold first? at h
  obtain ⟨e, he, heq⟩ := Option.map_eq_some_iff.mp h
  have hmem : e ∈ m.entries := List.mem_of_mem_head? he
  cases heq
  exact AList.mem_lookup_iff.mpr hmem

/-- Removing another key keeps the first entry where it is. -/
theorem first?_erase (h : m.first? = some (k, v)) (hne : k' ≠ k) :
    first? (m.erase k') = some (k, v) := by
  unfold first? at h ⊢
  show ((List.kerase k' m.entries).head?.map fun e => (e.1, e.2)) = some (k, v)
  cases hm : m.entries with
  | nil =>
    rw [hm] at h
    cases h
  | cons e entries =>
    rw [hm, List.head?_cons, Option.map_some, Option.some.injEq] at h
    have hkey : k' ≠ e.1 := by
      cases h
      exact hne
    rw [List.kerase_cons_ne hkey, List.head?_cons, Option.map_some, h]

/-- Remove every key of a list. -/
def eraseAll (m : UnorderedMap κ ν) (keys : List κ) : UnorderedMap κ ν :=
  keys.foldl (fun m k => m.erase k) m

theorem lookup_eraseAll (m : UnorderedMap κ ν) (keys : List κ) (k : κ) :
    (eraseAll m keys).lookup k = if k ∈ keys then none else m.lookup k := by
  induction keys generalizing m with
  | nil => rfl
  | cons k₀ keys ih =>
    show (eraseAll (m.erase k₀) keys).lookup k = _
    rw [ih]
    by_cases hk : k = k₀
    · subst hk
      simp
    · simp [hk, AList.lookup_erase_ne hk]

theorem mem_eraseAll {m : UnorderedMap κ ν} {keys : List κ} :
    k ∈ eraseAll m keys ↔ k ∈ m ∧ k ∉ keys := by
  rw [← AList.lookup_isSome, lookup_eraseAll, ← AList.lookup_isSome]
  by_cases hk : k ∈ keys <;> simp [hk]

theorem first?_eraseAll {keys : List κ} (h : m.first? = some (k, v)) (hk : k ∉ keys) :
    first? (eraseAll m keys) = some (k, v) := by
  induction keys generalizing m with
  | nil => exact h
  | cons k₀ keys ih =>
    have hne : k₀ ≠ k := fun heq => hk (heq ▸ List.mem_cons_self)
    exact ih (first?_erase h hne) fun hmem => hk (List.mem_cons_of_mem _ hmem)

end UnorderedMap
