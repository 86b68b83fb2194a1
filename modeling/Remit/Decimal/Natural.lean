/-!
# Natural numbers in decimal

A natural number is written without sign and without leading zeros, and read from any non-empty
row of the digits `0` to `9`. Neither has a bound.

## Main statements

* `Decimal.natural?_digits`: reading inverts writing.
-/

namespace Remit.Decimal

/-- The digits of a number. -/
def digits (n : Nat) : List Char := Nat.toDigits 10 n

/-- The number with the given digits. -/
def value (text : List Char) : Nat := Nat.ofDigitChars 10 text 0

/-- Reads a row of digits. -/
def natural? (text : List Char) : Option Nat :=
  if text.isEmpty || !text.all Char.isDigit then none else some (value text)

theorem toString_eq_digits (n : Nat) : toString n = String.ofList (digits n) :=
  Nat.toString_eq_ofList_toDigits

theorem digits_ne_nil (n : Nat) : digits n ≠ [] := Nat.toDigits_ne_nil

theorem isDigit_of_mem_digits {n : Nat} {c : Char} (h : c ∈ digits n) : c.isDigit = true :=
  Nat.isDigit_of_mem_toDigits (by decide) (by decide) h

@[simp] theorem value_digits (n : Nat) : value (digits n) = n := Nat.ofDigitChars_ten_toDigits

theorem natural?_digits (n : Nat) : natural? (digits n) = some n := by
  have h : (digits n).all Char.isDigit = true :=
    List.all_eq_true.2 fun c hc => isDigit_of_mem_digits hc
  simp [natural?, h, digits_ne_nil]

theorem natural?_eq_some_iff {text : List Char} {n : Nat} :
    natural? text = some n ↔ text ≠ [] ∧ (∀ c ∈ text, c.isDigit = true) ∧ value text = n := by
  unfold natural?
  split
  · rename_i h
    simp only [Bool.or_eq_true, List.isEmpty_iff, Bool.not_eq_true', List.all_eq_false] at h
    grind
  · rename_i h
    simp only [Bool.or_eq_true, List.isEmpty_iff, Bool.not_eq_true', List.all_eq_false] at h
    grind

end Remit.Decimal
