import Mathlib.Data.List.TakeWhile
import Mathlib.Data.Rat.Cast.Order
import Mathlib.Tactic.FieldSimp
import Mathlib.Tactic.Ring
import Remit.Proofs.Text.Numerals

/-!
# Coins are read exactly

A decimal stands for a rational number, digit by digit: each digit before the point counts ten
times the next one, and each digit behind the point a tenth of the one before. `Amount.parseCoins`
does not compute with fractions at all. It puts zeros behind the digits and reads what it has as a
natural number, and this number is the rational one in wei.

* `value_padded`: digits with zeros behind them are a decimal in wei;
* `Amount.parseCoins_eq_ok_iff`: which texts are amounts in coins, and of how many wei.
-/

namespace Remit

namespace Decimal

/-! ### Decimals -/

/-- What a digit counts. -/
def digitValue (c : Char) : ℚ := ((c.toNat - '0'.toNat : ℕ) : ℚ)

/-- What the digits before a point count. -/
def wholeValue (digits : List Char) : ℚ :=
  digits.foldl (fun sofar c => 10 * sofar + digitValue c) 0

/-- What the digits behind a point count. -/
def fractionValue (digits : List Char) : ℚ :=
  digits.foldr (fun c rest => (digitValue c + rest) / 10) 0

/-- The text is a decimal with no more than the given number of places, and this is its value. -/
inductive IsDecimal (places : Nat) : List Char → ℚ → Prop where
  | whole {digits : List Char} (h : IsNumeral digits) :
    IsDecimal places digits (wholeValue digits)
  | pointed {digits fraction : List Char} (h : IsNumeral digits) (hfraction : IsNumeral fraction)
      (hplaces : fraction.length ≤ places) :
    IsDecimal places (digits ++ '.' :: fraction) (wholeValue digits + fractionValue fraction)

theorem natCast_ofDigitChars (digits : List Char) (start : Nat) :
    (Nat.ofDigitChars 10 digits start : ℚ) =
      digits.foldl (fun sofar c => 10 * sofar + digitValue c) (start : ℚ) := by
  induction digits generalizing start with
  | nil => rfl
  | cons c rest ih =>
    rw [Nat.ofDigitChars_cons, ih, List.foldl_cons, digitValue]
    push_cast
    rfl

theorem natCast_value (digits : List Char) : (value digits : ℚ) = wholeValue digits := by
  rw [value, natCast_ofDigitChars, Nat.cast_zero]
  rfl

theorem fractionValue_eq (digits : List Char) :
    fractionValue digits = (value digits : ℚ) / 10 ^ digits.length := by
  induction digits with
  | nil => simp [fractionValue, value]
  | cons c rest ih =>
    have hvalue : value (c :: rest) = 10 ^ rest.length * (c.toNat - '0'.toNat) + value rest := by
      rw [← List.singleton_append, value_append, value_singleton]
    have hstep : fractionValue (c :: rest) = (digitValue c + fractionValue rest) / 10 := rfl
    rw [hstep, ih, hvalue, digitValue, List.length_cons]
    push_cast
    field_simp
    ring

/-- **Zeros behind the digits make wei of a decimal.** -/
theorem value_padded (digits : List Char) {fraction : List Char} {places : Nat}
    (hplaces : fraction.length ≤ places) :
    (value (digits ++ fraction ++ List.replicate (places - fraction.length) '0') : ℚ) =
      (wholeValue digits + fractionValue fraction) * 10 ^ places := by
  have hvalue : value (digits ++ fraction ++ List.replicate (places - fraction.length) '0') =
      10 ^ (places - fraction.length) * (10 ^ fraction.length * value digits + value fraction) := by
    rw [value_append_zeros, value_append, Nat.mul_comm]
  have hpow : (10 : ℚ) ^ places = 10 ^ (places - fraction.length) * 10 ^ fraction.length := by
    rw [← pow_add, Nat.sub_add_cancel hplaces]
  rw [hvalue, hpow, fractionValue_eq, ← natCast_value]
  push_cast
  field_simp

/-! ### Rows of digits -/

theorem isNumeral_iff {text : List Char} :
    IsNumeral text ↔ text ≠ [] ∧ text.all Char.isDigit = true := by
  have h : natural? text = some (value text) ↔ IsNumeral text ∧ value text = value text :=
    natural?_eq_some_iff_isNumeral
  rw [natural?_eq_some_iff] at h
  rw [List.all_eq_true]
  constructor
  · intro hnumeral
    obtain ⟨hne, hdigits, -⟩ := h.2 ⟨hnumeral, rfl⟩
    exact ⟨hne, hdigits⟩
  · rintro ⟨hne, hdigits⟩
    exact (h.1 ⟨hne, hdigits, rfl⟩).1

theorem utf8Length_of_isDigit {text : List Char} (h : text.all Char.isDigit = true) :
    Bytes.utf8Length text = text.length := by
  induction text with
  | nil => rfl
  | cons c rest ih =>
    rw [List.all_cons, Bool.and_eq_true] at h
    have hsize : c.utf8Size = 1 := by
      have hdigit := h.1
      simp only [Char.isDigit, Bool.and_eq_true, decide_eq_true_eq] at hdigit
      rw [Char.utf8Size_eq_one_iff]
      exact UInt32.le_trans hdigit.2 (by decide)
    rw [Bytes.utf8Length, hsize, ih h.2, List.length_cons, Nat.add_comm]

theorem IsNumeral.point_not_mem {text : List Char} (h : IsNumeral text) : '.' ∉ text := by
  intro hmem
  have hpoint := (h.2 '.' hmem).1
  exact absurd hpoint (by decide)

end Decimal

namespace Amount

open Decimal

/-! ### Points -/

theorem splitAtPoint_of_not_mem {text : List Char} (h : '.' ∉ text) :
    splitAtPoint text = (text, none) := by
  have hbefore : ∀ c ∈ text, decide (c ≠ '.') = true := by
    intro c hc
    rw [decide_eq_true_eq]
    rintro rfl
    exact h hc
  have hrest : text.dropWhile (fun c => decide (c ≠ '.')) = [] :=
    List.dropWhile_eq_nil_iff.2 hbefore
  rw [splitAtPoint, hrest]

theorem splitAtPoint_append {whole : List Char} (h : '.' ∉ whole) (fraction : List Char) :
    splitAtPoint (whole ++ '.' :: fraction) = (whole, some fraction) := by
  have hbefore : ∀ c ∈ whole, decide (c ≠ '.') = true := by
    intro c hc
    rw [decide_eq_true_eq]
    rintro rfl
    exact h hc
  rw [splitAtPoint, List.dropWhile_append_of_pos hbefore, List.takeWhile_append_of_pos hbefore]
  simp

/-! ### Reading -/

/-- What the reader asks of the two parts of a text. That it counts the places in bytes makes no
difference, since it goes on with digits only. -/
theorem parseCoins_eq_ok_iff_of_split {text : String} {whole : List Char}
    {fraction? : Option (List Char)} (h : splitAtPoint text.toList = (whole, fraction?))
    {amount : Amount} :
    parseCoins text = .ok amount ↔
      (whole ≠ [] ∧ fraction? ≠ some []) ∧ (whole ++ fraction?.getD []).all Char.isDigit = true ∧
        (fraction?.getD []).length ≤ places ∧
        amount.wei = value (whole ++ fraction?.getD [] ++
          List.replicate (places - (fraction?.getD []).length) '0') := by
  obtain ⟨wei⟩ := amount
  have hparts : (whole.isEmpty || decide (fraction? = some [])) = false ↔
      whole ≠ [] ∧ fraction? ≠ some [] := by
    rw [Bool.or_eq_false_iff, List.isEmpty_eq_false_iff, decide_eq_false_iff_not]
  unfold parseCoins
  rw [h, ← hparts]
  dsimp only
  set fraction := fraction?.getD []
  cases whole.isEmpty || decide (fraction? = some []) with
  | true => simp
  | false =>
    cases hdigits : (whole ++ fraction).all Char.isDigit with
    | true =>
      have hlength : Bytes.utf8Length fraction = fraction.length := by
        rw [List.all_append, Bool.and_eq_true] at hdigits
        exact utf8Length_of_isDigit hdigits.2
      rw [hlength]
      by_cases hplaces : fraction.length ≤ places
      · simp [Nat.not_lt.2 hplaces, hplaces, eq_comm]
      · simp [Nat.not_le.1 hplaces, hplaces]
    | false =>
      by_cases hplaces : Bytes.utf8Length fraction > places
      · simp [hplaces]
      · simp [hplaces]

/-- The text is a decimal number of coins, with no place finer than wei, and this is the amount. -/
def IsCoins (text : String) (amount : Amount) : Prop :=
  ∃ coins, IsDecimal 18 text.toList coins ∧ (amount.wei : ℚ) = coins * 10 ^ 18

theorem isCoins_of_parseCoins {text : String} {amount : Amount}
    (h : parseCoins text = .ok amount) : IsCoins text amount := by
  by_cases hpoint : '.' ∈ text.toList
  · obtain ⟨whole, fraction, htext, hwhole⟩ := List.eq_append_cons_of_mem hpoint
    have hsplit : splitAtPoint text.toList = (whole, some fraction) := by
      rw [htext]
      exact splitAtPoint_append hwhole fraction
    obtain ⟨⟨hne, hne'⟩, hdigits, hplaces, hwei⟩ := (parseCoins_eq_ok_iff_of_split hsplit).1 h
    rw [List.all_append, Bool.and_eq_true] at hdigits
    refine ⟨_, ?_, hwei ▸ value_padded whole hplaces⟩
    rw [htext]
    exact .pointed (isNumeral_iff.2 ⟨hne, hdigits.1⟩)
      (isNumeral_iff.2 ⟨fun hnil => hne' (congrArg some hnil), hdigits.2⟩) hplaces
  · obtain ⟨⟨hne, -⟩, hdigits, hplaces, hwei⟩ :=
      (parseCoins_eq_ok_iff_of_split (splitAtPoint_of_not_mem hpoint)).1 h
    have hvalue := value_padded text.toList hplaces
    rw [List.all_append, Bool.and_eq_true] at hdigits
    refine ⟨_, .whole (isNumeral_iff.2 ⟨hne, hdigits.1⟩), ?_⟩
    rw [hwei, hvalue]
    show (wholeValue text.toList + 0) * 10 ^ 18 = _
    rw [add_zero]

theorem parseCoins_of_isCoins {text : String} {amount : Amount} (h : IsCoins text amount) :
    parseCoins text = .ok amount := by
  obtain ⟨coins, hcoins, hwei⟩ := h
  generalize htext : text.toList = chars at hcoins
  cases hcoins with
  | whole hdigits =>
    have hsplit : splitAtPoint text.toList = (chars, none) := by
      rw [htext]
      exact splitAtPoint_of_not_mem hdigits.point_not_mem
    obtain ⟨hne, hall⟩ := isNumeral_iff.1 hdigits
    refine (parseCoins_eq_ok_iff_of_split hsplit).2 ⟨⟨hne, by simp⟩, ?_, Nat.zero_le _, ?_⟩
    · rw [List.all_append, hall]
      rfl
    · have hnone : ([] : List Char).length ≤ 18 := Nat.zero_le 18
      have hvalue := value_padded chars hnone
      rw [show fractionValue [] = 0 from rfl, add_zero, ← hwei] at hvalue
      exact_mod_cast hvalue.symm
  | pointed hdigits hfraction hplaces =>
    rename_i digits fraction
    have hsplit : splitAtPoint text.toList = (digits, some fraction) := by
      rw [htext]
      exact splitAtPoint_append hdigits.point_not_mem fraction
    obtain ⟨hne, hall⟩ := isNumeral_iff.1 hdigits
    obtain ⟨hne', hall'⟩ := isNumeral_iff.1 hfraction
    refine (parseCoins_eq_ok_iff_of_split hsplit).2
      ⟨⟨hne, fun hnil => hne' (Option.some.inj hnil)⟩, ?_, hplaces, ?_⟩
    · rw [List.all_append, hall]
      exact hall'
    · have hvalue := value_padded digits hplaces
      rw [← hwei] at hvalue
      exact_mod_cast hvalue.symm

/-- **Coins are read exactly**: a text is read if and only if it is a decimal of at most 18 places,
and as the amount that is its value. -/
theorem parseCoins_eq_ok_iff {text : String} {amount : Amount} :
    parseCoins text = .ok amount ↔ IsCoins text amount :=
  ⟨isCoins_of_parseCoins, parseCoins_of_isCoins⟩

end Amount

end Remit
