import Mathlib.Data.List.Basic

/-!
# Decimal numerals inside names

`std::to_string` of an unsigned number is `toString` of a `Nat`. A numeral
determines its number, and consists of digits only; so a name that ends in a
numeral never equals one that ends in a letter.
-/

namespace Decimal

theorem toString_toList (n : Nat) : (toString n).toList = Nat.toDigits 10 n :=
  Nat.toList_repr

theorem toString_injective : Function.Injective (fun n : Nat => toString n) := by
  intro m n h
  have hdigits : Nat.toDigits 10 m = Nat.toDigits 10 n := by
    rw [← toString_toList, ← toString_toList]
    exact congrArg String.toList h
  rw [← Nat.ofDigitChars_ten_toDigits (n := m), hdigits, Nat.ofDigitChars_ten_toDigits]

theorem isDigit_of_mem {n : Nat} {c : Char} (h : c ∈ (toString n).toList) : c.isDigit := by
  rw [toString_toList] at h
  exact Nat.isDigit_of_mem_toDigits (by decide) (by decide) h

theorem toString_ne_nil (n : Nat) : (toString n).toList ≠ [] := by
  rw [toString_toList]
  exact Nat.toDigits_ne_nil

/-- The last character of a numeral is a digit, whatever stands before it. -/
theorem getLast?_append_isDigit (s : String) (n : Nat) :
    ∃ c, (s ++ toString n).toList.getLast? = some c ∧ c.isDigit := by
  have hne := toString_ne_nil n
  refine ⟨(toString n).toList.getLast hne, ?_, isDigit_of_mem (List.getLast_mem hne)⟩
  rw [String.toList_append, List.getLast?_append, List.getLast?_eq_some_getLast hne]
  rfl

/-- A name that ends in a numeral is not one that ends in `t`, when `t` ends in
something other than a digit. -/
theorem append_toString_ne {s s' t : String} {n : Nat} {c : Char}
    (ht : t.toList.getLast? = some c) (hc : c.isDigit = false) :
    s ++ toString n ≠ s' ++ t := by
  intro h
  obtain ⟨d, hd, hdigit⟩ := getLast?_append_isDigit s n
  rw [h, String.toList_append, List.getLast?_append, ht] at hd
  have hcd : c = d := by simpa using hd
  rw [hcd, hdigit] at hc
  cases hc

end Decimal
