import Mathlib.Data.List.DropRight
import Mathlib.Data.List.Induction
import Remit.Proofs.Text.Grammar

/-!
# Rows of digits and their numbers

A number has one row of digits of every length that is long enough for it, and only one row
without superfluous zeros in front, which is the one that is written for it.

* `eq_of_value_eq`: rows of equal length with equal values are equal;
* `digits_value`: a row without superfluous zeros is what is written for its value;
* `zeros_append_digits_value`: every row is what is written for its value, with zeros in front;
* `exists_leading_zeros`, `exists_trailing_zeros`: every row is one without zeros at this end, and
  zeros.
-/

namespace Remit.Decimal

/-- Nothing but digits, and perhaps none at all. -/
def AreDigits (text : List Char) : Prop := ∀ c ∈ text, '0' ≤ c ∧ c ≤ '9'

theorem AreDigits.append {a b : List Char} (ha : AreDigits a) (hb : AreDigits b) :
    AreDigits (a ++ b) := by
  intro c hc
  rcases List.mem_append.1 hc with hc | hc
  · exact ha c hc
  · exact hb c hc

theorem areDigits_replicate_zero (n : Nat) : AreDigits (List.replicate n '0') := by
  intro c hc
  rw [List.eq_of_mem_replicate hc]
  decide

theorem isNumeral_digits (n : Nat) : IsNumeral (digits n) :=
  (natural?_eq_some_iff_isNumeral.1 (natural?_digits n)).1

/-! ### Single digits -/

/-- What a digit counts. -/
theorem exists_digitChar {c : Char} (h : '0' ≤ c ∧ c ≤ '9') :
    ∃ d < 10, c = Nat.digitChar d ∧ c.toNat - '0'.toNat = d := by
  have hlow : 48 ≤ c.toNat := h.1
  have hhigh : c.toNat ≤ 57 := h.2
  refine ⟨c.toNat - 48, by omega, ?_, rfl⟩
  have table : ∀ d : Fin 10, Char.ofNat (48 + d) = Nat.digitChar d := by decide
  have hd := table ⟨c.toNat - 48, by omega⟩
  rw [← hd, Nat.add_sub_cancel' hlow, Char.ofNat_toNat]

/-! ### Values -/

theorem value_append (a b : List Char) : value (a ++ b) = 10 ^ b.length * value a + value b := by
  rw [value, Nat.ofDigitChars_append, Nat.ofDigitChars_eq_ofDigitChars_zero]
  rfl

theorem value_replicate_zero (n : Nat) : value (List.replicate n '0') = 0 := by
  rw [value, Nat.ofDigitChars_replicate_zero, Nat.mul_zero]

theorem value_append_zeros (text : List Char) (n : Nat) :
    value (text ++ List.replicate n '0') = value text * 10 ^ n := by
  rw [value_append, value_replicate_zero, List.length_replicate, Nat.add_zero, Nat.mul_comm]

theorem value_zeros_append (n : Nat) (text : List Char) :
    value (List.replicate n '0' ++ text) = value text := by
  rw [value_append, value_replicate_zero, Nat.mul_zero, Nat.zero_add]

theorem value_singleton (c : Char) : value [c] = c.toNat - '0'.toNat := by
  rw [value, Nat.ofDigitChars_cons, Nat.ofDigitChars_nil, Nat.mul_zero, Nat.zero_add]

theorem value_concat (text : List Char) (c : Char) :
    value (text ++ [c]) = 10 * value text + (c.toNat - '0'.toNat) := by
  rw [value_append, value_singleton, List.length_singleton, Nat.pow_one]

theorem value_lt {text : List Char} (h : AreDigits text) : value text < 10 ^ text.length := by
  induction text using List.reverseRecOn with
  | nil => decide
  | append_singleton front c ih =>
    obtain ⟨d, hd, -, hvalue⟩ := exists_digitChar (h c (by simp))
    have hfront := ih fun e he => h e (by simp [he])
    rw [value_concat, hvalue, List.length_append, List.length_singleton, Nat.pow_succ]
    omega

/-- **Rows of one length are told apart by their values.** -/
theorem eq_of_value_eq {a b : List Char} (ha : AreDigits a) (hb : AreDigits b)
    (hlength : a.length = b.length) (h : value a = value b) : a = b := by
  -- The last digits are the remainders by ten, so the induction takes the digits from the end.
  induction a using List.reverseRecOn generalizing b with
  | nil => exact (List.length_eq_zero_iff.1 hlength.symm).symm
  | append_singleton front c ih =>
    obtain rfl | ⟨front', c', rfl⟩ := List.eq_nil_or_concat b
    · simp at hlength
    · obtain ⟨d, hd, hc, hcount⟩ := exists_digitChar (ha c (by simp))
      obtain ⟨d', hd', hc', hcount'⟩ := exists_digitChar (hb c' (by simp))
      rw [List.concat_eq_append, value_concat, value_concat, hcount, hcount'] at h
      have hlast : d = d' := by omega
      have hfront : front = front' := by
        refine ih (fun e he => ha e (by simp [he])) (fun e he => hb e (by simp [he])) ?_ (by omega)
        simpa using hlength
      rw [hfront, hc, hc', hlast, List.concat_eq_append]

/-! ### Superfluous zeros -/

/-- The first digit is a zero only if it is the only one. -/
def IsTrimmed (text : List Char) : Prop := text.head? = some '0' → text = ['0']

/-- **A row without superfluous zeros is the one that is written.** -/
theorem digits_value {text : List Char} (h : IsNumeral text) (htrimmed : IsTrimmed text) :
    digits (value text) = text := by
  induction text using List.reverseRecOn with
  | nil => exact absurd rfl h.1
  | append_singleton front c ih =>
    obtain ⟨d, hd, hc, hcount⟩ := exists_digitChar (h.2 c (by simp))
    rw [value_concat, hcount]
    by_cases hnil : front = []
    · subst hnil
      rw [hc, show value [] = 0 from rfl, Nat.mul_zero, Nat.zero_add]
      exact Nat.toDigits_of_lt_base hd
    · have hhead : front.head? ≠ some '0' := by
        intro hzero
        have hwhole := htrimmed (by rw [List.head?_append, hzero]; rfl)
        have hlength := congrArg List.length hwhole
        rw [List.length_append, List.length_singleton, List.length_singleton] at hlength
        exact hnil (List.length_eq_zero_iff.1 (by omega))
      have hfront := ih ⟨hnil, fun e he => h.2 e (by simp [he])⟩ fun hzero => absurd hzero hhead
      -- A front of value zero would be written as a zero, and so start with one.
      have hpos : 0 < value front := by
        rw [Nat.pos_iff_ne_zero]
        intro hzero
        rw [hzero] at hfront
        rw [← hfront] at hhead
        exact hhead rfl
      rw [digits, ← Nat.toDigits_append_toDigits (by decide) hpos hd, Nat.toDigits_of_lt_base hd,
        ← hc]
      exact congrArg (· ++ [c]) hfront

theorem exists_leading_zeros {text : List Char} (h : IsNumeral text) :
    ∃ n kept, text = List.replicate n '0' ++ kept ∧ IsNumeral kept ∧ IsTrimmed kept := by
  induction text with
  | nil => exact absurd rfl h.1
  | cons c rest ih =>
    by_cases hkept : IsTrimmed (c :: rest)
    · exact ⟨0, c :: rest, rfl, h, hkept⟩
    · obtain ⟨hzero, hmore⟩ := Classical.not_imp.1 hkept
      obtain rfl : c = '0' := Option.some.inj hzero
      have hrest : IsNumeral rest :=
        ⟨fun hnil => hmore (congrArg _ hnil), fun e he => h.2 e (List.mem_cons_of_mem _ he)⟩
      obtain ⟨n, kept, rfl, hnumeral, htrimmed⟩ := ih hrest
      exact ⟨n + 1, kept, rfl, hnumeral, htrimmed⟩

theorem exists_trailing_zeros {text : List Char} (h : AreDigits text) :
    ∃ kept n, text = kept ++ List.replicate n '0' ∧ AreDigits kept ∧
      kept.getLast? ≠ some '0' := by
  induction text using List.reverseRecOn with
  | nil => exact ⟨[], 0, rfl, h, by simp⟩
  | append_singleton front c ih =>
    by_cases hzero : c = '0'
    · obtain ⟨kept, n, rfl, hkept, hlast⟩ := ih fun e he => h e (by simp [he])
      refine ⟨kept, n + 1, ?_, hkept, hlast⟩
      rw [hzero, List.append_assoc, List.replicate_succ']
    · exact ⟨front ++ [c], 0, by simp, h, by simpa using hzero⟩

theorem value_pos {text : List Char} (h : AreDigits text) (hne : text ≠ [])
    (hlast : text.getLast? ≠ some '0') : 0 < value text := by
  obtain rfl | ⟨front, c, rfl⟩ := List.eq_nil_or_concat text
  · exact absurd rfl hne
  · rw [List.concat_eq_append] at h hlast ⊢
    obtain ⟨d, -, hc, hcount⟩ := exists_digitChar (h c (by simp))
    have hd : d ≠ 0 := by
      rintro rfl
      rw [hc, List.getLast?_concat] at hlast
      exact hlast rfl
    rw [value_concat, hcount]
    omega

theorem rdropWhile_trailing_zeros {text : List Char} (h : text.getLast? ≠ some '0') (n : Nat) :
    (text ++ List.replicate n '0').rdropWhile (· = '0') = text := by
  induction n with
  | zero =>
    rw [List.replicate_zero, List.append_nil, List.rdropWhile_eq_self_iff]
    intro hne hzero
    rw [List.getLast?_eq_some_getLast hne] at h
    exact h (congrArg some (of_decide_eq_true hzero))
  | succ n ih =>
    rw [List.replicate_succ', ← List.append_assoc, List.rdropWhile_concat_pos _ _ _ rfl, ih]

/-- A number with zeros in front of it is the row of that length that has its value. -/
theorem zeros_append_digits_value {text : List Char} (h : IsNumeral text) :
    List.replicate (text.length - (digits (value text)).length) '0' ++ digits (value text) =
      text := by
  have hfits : (digits (value text)).length ≤ text.length :=
    (Nat.length_toDigits_le_iff (by decide) (List.length_pos_iff.2 h.1)).2 (value_lt h.2)
  refine eq_of_value_eq ((areDigits_replicate_zero _).append (isNumeral_digits _).2) h.2 ?_ ?_
  · rw [List.length_append, List.length_replicate]
    omega
  · rw [value_zeros_append, value_digits]

end Remit.Decimal
