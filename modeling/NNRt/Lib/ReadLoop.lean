import NNRt.Lib.WhileLoop
import Mathlib.Data.List.Basic

/-!
# Reading until nothing is left

A reader takes one record from the front of a string. The loop applies it while something
is left, and collects what it reads.

- `Reads`: the records that are read from a string, and what lies behind them.
- `exists_reads`: **the loop always ends**, behind the last record or where the reader
  fails, if the reader never succeeds without taking something. `Reads.ends_ok` and
  `Reads.ends_error` are the two outcomes.
- `Framed`: strings of whole records, up to a tail. `Reads.framed_iff`: what is read does
  not decide whether a string is framed, for a reader that takes exactly the whole records.
-/

namespace ReadLoop

variable {α β ε : Type*} {read : List α → Except ε (β × List α)}

/-- What is left of the string, and what has been read. -/
structure State (α β : Type*) where
  rest : List α
  done : List β

/-- Something is left. -/
def guard (st : State α β) : Bool :=
  !st.rest.isEmpty

/-- One record more. -/
def body (read : List α → Except ε (β × List α)) (st : State α β) : Except ε (State α β) :=
  match read st.rest with
  | .error e => .error e
  | .ok (record, rest) => .ok { rest, done := st.done ++ [record] }

/-- Records that are read one after the other, and what lies behind them. -/
inductive Reads (read : List α → Except ε (β × List α)) : List α → List β → List α → Prop
  | none (s : List α) : Reads read s [] s
  | more {s rest s' : List α} {record : β} {records : List β} (hsome : s ≠ [])
    (hread : read s = .ok (record, rest)) (hrest : Reads read rest records s') :
    Reads read s (record :: records) s'

/-- A reader that succeeds takes something. -/
def Progresses (read : List α → Except ε (β × List α)) : Prop :=
  ∀ s record rest, read s = .ok (record, rest) → rest.length < s.length

theorem guard_of_ne_nil {rest : List α} {done : List β} (h : rest ≠ []) :
    guard (⟨rest, done⟩ : State α β) = true := by
  cases rest with
  | nil => exact absurd rfl h
  | cons x xs => rfl

/-- The loop where all records have been read. -/
theorem Reads.ends_ok {s : List α} {records : List β} (h : Reads read s records [])
    (done : List β) :
    WhileLoop.Ends guard (body read) ⟨s, done⟩ (.ok ⟨[], done ++ records⟩) := by
  generalize hnil : ([] : List α) = s' at h
  induction h generalizing done with
  | none s =>
    subst hnil
    rw [List.append_nil]
    exact WhileLoop.ends_of_guard rfl
  | @more s rest s' record records hsome hread hrest ih =>
    have hbody : body read ⟨s, done⟩ = .ok ⟨rest, done ++ [record]⟩ := by
      rw [body]
      dsimp only
      rw [hread]
    have hends := ih (done ++ [record]) hnil
    rw [List.append_assoc, List.singleton_append] at hends
    exact hends.round (guard_of_ne_nil hsome) hbody

/-- The loop where the reader fails. -/
theorem Reads.ends_error {s s' : List α} {records : List β} {e : ε}
    (h : Reads read s records s') (hsome : s' ≠ []) (hread : read s' = .error e)
    (done : List β) : WhileLoop.Ends guard (body read) ⟨s, done⟩ (.error e) := by
  induction h generalizing done with
  | none s =>
    have hbody : body read ⟨s, done⟩ = .error e := by
      rw [body]
      dsimp only
      rw [hread]
    exact WhileLoop.ends_of_error (guard_of_ne_nil hsome) hbody
  | @more s rest s' record records hsome' hread' hrest ih =>
    have hbody : body read ⟨s, done⟩ = .ok ⟨rest, done ++ [record]⟩ := by
      rw [body]
      dsimp only
      rw [hread']
    exact (ih hsome hread (done ++ [record])).round (guard_of_ne_nil hsome') hbody

/-- **What a loop does**: it reads all records, or it reads some and fails. -/
theorem exists_reads (hread : Progresses read) (s : List α) :
    ∃ records s', Reads read s records s' ∧ (s' = [] ∨ s' ≠ [] ∧ ∃ e, read s' = .error e) := by
  induction hn : s.length using Nat.strongRecOn generalizing s with
  | ind n ih =>
    by_cases hnil : s = []
    · exact ⟨[], s, .none s, Or.inl hnil⟩
    cases hs : read s with
    | error e => exact ⟨[], s, .none s, Or.inr ⟨hnil, e, hs⟩⟩
    | ok result =>
      obtain ⟨record, rest⟩ := result
      have hless := hread s record rest hs
      obtain ⟨records, s', hreads, hend⟩ := ih rest.length (by omega) rest rfl
      exact ⟨record :: records, s', .more hnil hs hreads, hend⟩

/-! ## Framing -/

/-- Whole records one after the other, and a tail behind them. -/
inductive Framed (Record Tail : List α → Prop) : List α → Prop
  | tail {s : List α} (h : Tail s) : Framed Record Tail s
  | record {record rest : List α} (h : Record record) (hrest : Framed Record Tail rest) :
    Framed Record Tail (record ++ rest)

/-- The reader takes exactly the whole records, and a tail is none. -/
structure Matches (read : List α → Except ε (β × List α)) (Record Tail : List α → Prop) :
    Prop where
  sound : ∀ s r rest, read s = .ok (r, rest) → ∃ record, Record record ∧ s = record ++ rest
  complete : ∀ record rest, Record record → ∃ r, read (record ++ rest) = .ok (r, rest)
  tail : ∀ s r rest, Tail s → read s ≠ .ok (r, rest)

variable {Record Tail : List α → Prop}

/-- A record in front does not decide whether a string is framed. -/
theorem framed_iff_of_read (hmatches : Matches read Record Tail) {s rest : List α} {r : β}
    (h : read s = .ok (r, rest)) : Framed Record Tail s ↔ Framed Record Tail rest := by
  constructor
  · intro hframed
    cases hframed with
    | tail htail => exact absurd h (hmatches.tail s r rest htail)
    | @record record rest' hrecord hrest =>
      obtain ⟨r', hread⟩ := hmatches.complete record rest' hrecord
      cases hread.symm.trans h
      exact hrest
  · intro hframed
    obtain ⟨record, hrecord, rfl⟩ := hmatches.sound s r rest h
    exact .record hrecord hframed

theorem Reads.framed_iff (hmatches : Matches read Record Tail) {s s' : List α}
    {records : List β} (h : Reads read s records s') :
    Framed Record Tail s ↔ Framed Record Tail s' := by
  induction h with
  | none s => exact Iff.rfl
  | more _ hread _ ih => exact (framed_iff_of_read hmatches hread).trans ih

/-- Where the reader fails, a framed string has come to its tail. -/
theorem Framed.tail_of_error (hmatches : Matches read Record Tail) {s : List α} {e : ε}
    (h : Framed Record Tail s) (hread : read s = .error e) : Tail s := by
  cases h with
  | tail htail => exact htail
  | @record record rest hrecord _ =>
    obtain ⟨r, hok⟩ := hmatches.complete record rest hrecord
    cases hok.symm.trans hread

end ReadLoop
