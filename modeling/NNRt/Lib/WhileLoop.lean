import Mathlib.Order.Basic

/-!
# While loops

A loop takes a round as long as its guard holds. A round may stop it with an error, and
nothing says that it ends.

- `run`: the loop, with a bound on its rounds.
- `Ends`: some number of rounds suffices, and no further one changes the outcome.
- `ends_of_measure`: **total correctness**, from an invariant that keeps every round from
  stopping the loop and a measure that every round makes smaller.
-/

namespace WhileLoop

variable {σ ε : Type*} {guard : σ → Bool} {body : σ → Except ε σ}

/-- So many rounds at most, and nothing where they do not suffice. -/
def run (guard : σ → Bool) (body : σ → Except ε σ) : Nat → σ → Option (Except ε σ)
  | 0, _ => none
  | fuel + 1, s =>
    if guard s then
      match body s with
      | .error e => some (.error e)
      | .ok s' => run guard body fuel s'
    else some (.ok s)

/-- The loop ends, with this outcome. -/
def Ends (guard : σ → Bool) (body : σ → Except ε σ) (s : σ) (outcome : Except ε σ) : Prop :=
  ∃ rounds, ∀ fuel, rounds ≤ fuel → run guard body fuel s = some outcome

/-- Where the guard does not hold, there is no round. -/
theorem ends_of_guard {s : σ} (h : guard s = false) : Ends guard body s (.ok s) := by
  refine ⟨1, fun fuel hfuel => ?_⟩
  obtain ⟨fuel, rfl⟩ : ∃ n, fuel = n + 1 := ⟨fuel - 1, by omega⟩
  rw [run, h, if_neg Bool.false_ne_true]

/-- A round that stops the loop. -/
theorem ends_of_error {s : σ} {e : ε} (hguard : guard s = true) (hbody : body s = .error e) :
    Ends guard body s (.error e) := by
  refine ⟨1, fun fuel hfuel => ?_⟩
  obtain ⟨fuel, rfl⟩ : ∃ n, fuel = n + 1 := ⟨fuel - 1, by omega⟩
  rw [run, if_pos hguard, hbody]

/-- A round, and what the loop does from there. -/
theorem Ends.round {s s' : σ} {outcome : Except ε σ} (hguard : guard s = true)
    (hbody : body s = .ok s') (h : Ends guard body s' outcome) : Ends guard body s outcome := by
  obtain ⟨rounds, hrounds⟩ := h
  refine ⟨rounds + 1, fun fuel hfuel => ?_⟩
  obtain ⟨fuel, rfl⟩ : ∃ n, fuel = n + 1 := ⟨fuel - 1, by omega⟩
  rw [run, if_pos hguard, hbody]
  exact hrounds fuel (by omega)

/-- **Total correctness**: an invariant under which no round stops the loop, and a
measure that gets smaller. -/
theorem ends_of_measure {I : σ → Prop} (measure : σ → Nat)
    (hround : ∀ s, I s → guard s = true → ∃ s', body s = .ok s' ∧ I s' ∧ measure s' < measure s)
    {s : σ} (hI : I s) : ∃ s', Ends guard body s (.ok s') ∧ I s' ∧ guard s' = false := by
  induction hn : measure s using Nat.strongRecOn generalizing s with
  | ind n ih =>
    cases hguard : guard s with
    | false => exact ⟨s, ends_of_guard hguard, hI, hguard⟩
    | true =>
      obtain ⟨s₁, hbody, hI₁, hless⟩ := hround s hI hguard
      obtain ⟨s', hends, hI', hguard'⟩ := ih (measure s₁) (hn ▸ hless) hI₁ rfl
      exact ⟨s', hends.round hguard hbody, hI', hguard'⟩

end WhileLoop
