import Mathlib.Algebra.BigOperators.Group.List.Basic
import Mathlib.Algebra.Order.Ring.Abs
import Mathlib.Data.Int.ModEq

/-!
# Arithmetic that may wrap

A program on words is written once, over the operations it uses. With `wrapping` it is what
the machine does; with `checked` it stops at the first result that does not fit a word, so
that it goes through exactly where nothing wraps.

- `Agrees`: where a checked program goes through, it answers like the wrapping one.
- `toNat_product` / `checked_prod_isSome_iff`: a product of words, modulo `2 ^ 64`, and
  exact where every product of leading words fits.
-/

namespace Overflow

/-- The operations on words. -/
structure Arith (m : Type → Type) where
  mul : UInt64 → UInt64 → m UInt64
  add : UInt64 → UInt64 → m UInt64

/-- The operations of the machine. -/
def wrapping : Arith Id where
  mul a b := a * b
  add a b := a + b

/-- The operations that stop where the machine's wrap. -/
def checked : Arith Option where
  mul a b := if a.toNat * b.toNat < 2 ^ 64 then some (a * b) else none
  add a b := if a.toNat + b.toNat < 2 ^ 64 then some (a + b) else none

/-- The product of a list of words, from the first one on. -/
def Arith.prod {m : Type → Type} [Monad m] (arith : Arith m) (words : List UInt64) : m UInt64 :=
  words.foldlM arith.mul 1

/-- The product of the machine. -/
def product (words : List UInt64) : UInt64 :=
  wrapping.prod words

/-- A checked run goes through only with what the wrapping run answers. -/
def Agrees {α : Type} (checkedRun : Option α) (wrappingRun : Id α) : Prop :=
  ∀ a, checkedRun = some a → wrappingRun = a

/-! ## One operation -/

theorem checked_mul_of_lt {a b : UInt64} (h : a.toNat * b.toNat < 2 ^ 64) :
    checked.mul a b = some (a * b) :=
  if_pos h

theorem checked_mul_eq_none {a b : UInt64} (h : ¬ a.toNat * b.toNat < 2 ^ 64) :
    checked.mul a b = none :=
  if_neg h

theorem checked_add_of_lt {a b : UInt64} (h : a.toNat + b.toNat < 2 ^ 64) :
    checked.add a b = some (a + b) :=
  if_pos h

theorem checked_add_eq_none {a b : UInt64} (h : ¬ a.toNat + b.toNat < 2 ^ 64) :
    checked.add a b = none :=
  if_neg h

theorem toNat_mul_of_lt {a b : UInt64} (h : a.toNat * b.toNat < 2 ^ 64) :
    (a * b).toNat = a.toNat * b.toNat := by
  rw [UInt64.toNat_mul, Nat.mod_eq_of_lt h]

/-- A product added to a word, where both may have wrapped before. -/
theorem toNat_add_mul {s a b : UInt64} {sum factor : Nat} (hs : s.toNat = sum % 2 ^ 64)
    (ha : a.toNat = factor % 2 ^ 64) :
    (s + a * b).toNat = (sum + factor * b.toNat) % 2 ^ 64 := by
  rw [UInt64.toNat_add, UInt64.toNat_mul, hs, ha, Nat.mod_mul_mod, ← Nat.add_mod]

/-- An operation that is checked by a test. -/
theorem agrees_ite {α : Type} {fits : Prop} [Decidable fits] (a : α) :
    Agrees (if fits then some a else none) a := by
  intro b hb
  by_cases h : fits
  · rw [if_pos h, Option.some_inj] at hb
    exact hb
  · rw [if_neg h] at hb
    cases hb

theorem agrees_mul (a b : UInt64) : Agrees (checked.mul a b) (wrapping.mul a b) :=
  agrees_ite (a * b)

theorem agrees_add (a b : UInt64) : Agrees (checked.add a b) (wrapping.add a b) :=
  agrees_ite (a + b)

/-- A product added to a word goes through iff the sum of the numbers fits. -/
theorem checked_mul_add {α : Type} (sum a b : UInt64) (next : UInt64 → Option α) :
    ((checked.mul a b).bind fun c => (checked.add sum c).bind next)
      = if sum.toNat + a.toNat * b.toNat < 2 ^ 64 then next (sum + a * b) else none := by
  by_cases hmul : a.toNat * b.toNat < 2 ^ 64
  · rw [checked_mul_of_lt hmul, Option.bind_some, ← toNat_mul_of_lt hmul]
    by_cases hadd : sum.toNat + (a * b).toNat < 2 ^ 64
    · rw [checked_add_of_lt hadd, if_pos hadd]
      rfl
    · rw [checked_add_eq_none hadd, if_neg hadd]
      rfl
  · rw [checked_mul_eq_none hmul, if_neg (by omega)]
    rfl

/-! ## Programs -/

section Programs

variable {α β : Type}

theorem agrees_pure (a : α) : Agrees (pure a) (pure a) := by
  intro b hb
  exact Option.some_inj.mp hb

/-- Two steps agree where each of them does. -/
theorem Agrees.bind {x : Option α} {y : Id α} {f : α → Option β} {g : α → Id β} (h : Agrees x y)
    (hnext : ∀ a, Agrees (f a) (g a)) : Agrees (x >>= f) (y >>= g) := by
  intro b hb
  obtain ⟨a, ha, hf⟩ := Option.bind_eq_some_iff.mp hb
  have hy : y = a := h a ha
  rw [← hnext a b hf, hy]
  rfl

theorem agrees_foldlM {f : β → α → Option β} {g : β → α → Id β}
    (h : ∀ b a, Agrees (f b a) (g b a)) (l : List α) (b : β) :
    Agrees (l.foldlM f b) (l.foldlM g b) := by
  induction l generalizing b with
  | nil => exact agrees_pure b
  | cons a l ih =>
    rw [List.foldlM_cons, List.foldlM_cons]
    exact (h b a).bind ih

theorem agrees_prod (words : List UInt64) : Agrees (checked.prod words) (wrapping.prod words) :=
  agrees_foldlM agrees_mul words 1

end Programs

/-! ## Products -/

/-- Every product of leading words fits. -/
def Fits (words : List UInt64) : Prop :=
  ∀ k, ((words.take k).map UInt64.toNat).prod < 2 ^ 64

theorem toNat_wrapping_foldlM (words : List UInt64) (first : UInt64) :
    (words.foldlM wrapping.mul first : Id UInt64).toNat
      = first.toNat * (words.map UInt64.toNat).prod % 2 ^ 64 := by
  induction words generalizing first with
  | nil =>
    show first.toNat = _
    rw [List.map_nil, List.prod_nil, Nat.mul_one, Nat.mod_eq_of_lt first.toNat_lt]
  | cons word words ih =>
    have hstep : (List.foldlM wrapping.mul first (word :: words) : Id UInt64)
        = (words.foldlM wrapping.mul (first * word) : Id UInt64) := rfl
    rw [hstep, ih, UInt64.toNat_mul, Nat.mod_mul_mod, List.map_cons, List.prod_cons, Nat.mul_assoc]

theorem toNat_product (words : List UInt64) :
    (product words).toNat = (words.map UInt64.toNat).prod % 2 ^ 64 := by
  unfold product Arith.prod
  rw [toNat_wrapping_foldlM, UInt64.toNat_one, Nat.one_mul]

theorem checked_foldlM_isSome_iff (words : List UInt64) (first : UInt64) :
    (words.foldlM checked.mul first).isSome = true ↔
      ∀ k, first.toNat * ((words.take k).map UInt64.toNat).prod < 2 ^ 64 := by
  induction words generalizing first with
  | nil =>
    have hfirst := first.toNat_lt
    simpa using hfirst
  | cons word words ih =>
    rw [List.foldlM_cons]
    by_cases h : first.toNat * word.toNat < 2 ^ 64
    · rw [checked_mul_of_lt h, Option.bind_eq_bind, Option.bind_some, ih, toNat_mul_of_lt h]
      constructor
      · intro hfits k
        cases k with
        | zero => simpa using first.toNat_lt
        | succ k => simpa [Nat.mul_assoc] using hfits k
      · intro hfits k
        simpa [Nat.mul_assoc] using hfits (k + 1)
    · rw [checked_mul_eq_none h]
      refine ⟨fun hsome => (Bool.false_ne_true hsome).elim, fun hfits => absurd ?_ h⟩
      simpa using hfits 1

/-- **The checked product** goes through iff the words fit. -/
theorem checked_prod_isSome_iff (words : List UInt64) :
    (checked.prod words).isSome = true ↔ Fits words := by
  unfold Arith.prod Fits
  rw [checked_foldlM_isSome_iff]
  simp

/-- All of the words make up the last of these products. -/
theorem Fits.prod_lt {words : List UInt64} (h : Fits words) :
    (words.map UInt64.toNat).prod < 2 ^ 64 := by
  simpa using h words.length

theorem checked_prod_of_fits {words : List UInt64} (h : Fits words) :
    checked.prod words = some (product words) := by
  obtain ⟨word, hword⟩ := Option.isSome_iff_exists.mp ((checked_prod_isSome_iff words).mpr h)
  have hproduct : product words = word := agrees_prod words word hword
  rw [hword, hproduct]

theorem checked_prod_eq_none {words : List UInt64} (h : ¬ Fits words) :
    checked.prod words = none := by
  rwa [← checked_prod_isSome_iff, Bool.not_eq_true, Option.isSome_eq_false_iff,
    Option.isNone_iff_eq_none] at h

/-! ## Signed numbers -/

/-- A number that stands for an integer in words: congruent to it, and not smaller in amount.
A negative integer is stood for by its representative among the words. -/
structure StandsFor (raw : Nat) (z : Int) : Prop where
  modEq : (raw : Int) ≡ z [ZMOD 2 ^ 64]
  natAbs_le : z.natAbs ≤ raw

namespace StandsFor

variable {raw raw' : Nat} {z z' : Int}

theorem natCast (n : Nat) : StandsFor n n :=
  ⟨Int.ModEq.refl _, le_of_eq (Int.natAbs_natCast n)⟩

theorem mul (h : StandsFor raw z) (h' : StandsFor raw' z') : StandsFor (raw * raw') (z * z') where
  modEq := by
    rw [Nat.cast_mul]
    exact h.modEq.mul h'.modEq
  natAbs_le := by
    rw [Int.natAbs_mul]
    exact Nat.mul_le_mul h.natAbs_le h'.natAbs_le

theorem add (h : StandsFor raw z) (h' : StandsFor raw' z') : StandsFor (raw + raw') (z + z') where
  modEq := by
    rw [Nat.cast_add]
    exact h.modEq.add h'.modEq
  natAbs_le := (Int.natAbs_add_le z z').trans (Nat.add_le_add h.natAbs_le h'.natAbs_le)

section Lists

variable {α : Type} {f : α → Nat} {g : α → Int} {l : List α}

theorem list_prod (h : ∀ a ∈ l, StandsFor (f a) (g a)) :
    StandsFor (l.map f).prod (l.map g).prod := by
  induction l with
  | nil => exact natCast 1
  | cons a l ih =>
    obtain ⟨ha, hl⟩ := List.forall_mem_cons.mp h
    exact ha.mul (ih hl)

theorem list_sum (h : ∀ a ∈ l, StandsFor (f a) (g a)) :
    StandsFor (l.map f).sum (l.map g).sum := by
  induction l with
  | nil => exact natCast 0
  | cons a l ih =>
    obtain ⟨ha, hl⟩ := List.forall_mem_cons.mp h
    exact ha.add (ih hl)

end Lists

/-- The word is 0 or the integer itself: a multiple of `2 ^ 64`, or a number that fits. -/
theorem zero_or_exact_iff (h : StandsFor raw z) :
    (raw % 2 ^ 64 = 0 ∨ ((raw % 2 ^ 64 : Nat) : Int) = z) ↔ 2 ^ 64 ∣ z ∨ 0 ≤ z ∧ z < 2 ^ 64 := by
  have hmod : (raw : Int) % 2 ^ 64 = z % 2 ^ 64 := h.modEq
  omega

/-- Where the number fits, it is 0 or the integer exactly for no negative integer. -/
theorem nonneg_of_fits (h : StandsFor raw z) (hlt : raw < 2 ^ 64) :
    (2 ^ 64 ∣ z ∨ 0 ≤ z ∧ z < 2 ^ 64) ↔ 0 ≤ z := by
  have hmod : (raw : Int) % 2 ^ 64 = z % 2 ^ 64 := h.modEq
  have hle := h.natAbs_le
  omega

end StandsFor

end Overflow
