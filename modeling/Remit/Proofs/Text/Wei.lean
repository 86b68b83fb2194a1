import Mathlib.Data.Nat.Digits.Defs
import Remit.Proofs.Json.Printing
import Remit.Proofs.Json.Records
import Remit.Proofs.Text.Numerals

/-!
# Texts with wei are read and written exactly

Amounts travel as texts with the digits of their wei. Such a text may have any length and zeros in
front, and nothing but digits. What is read from it is what the digits count, each by its place;
what is written again is the text without the zeros. A JSON value stands for an amount if it is a
string with such a text, and a JSON text if it is a text of such a value.

* `Decimal.value_eq_ofDigits`: the digits count by their places;
* `Decimal.digits_value_eq_withoutZeros`: what is written for the number of a text;
* `Amount.decoder_ofValue_eq_ok_iff`, `Amount.decoder_ofText_eq_ok_iff`: what JSON is an amount;
* `Amount.wei_exact`: both directions, and what follows for order and sums.
-/

namespace Remit

namespace Decimal

/-! ### Places -/

/-- The digits as numbers, with the last one, which counts least, in front. -/
def digitsFromLast (text : List Char) : List Nat :=
  text.reverse.map fun c => c.toNat - '0'.toNat

/-- **Each digit counts ten times what it would count one place further back.** -/
theorem value_eq_ofDigits (text : List Char) :
    value text = Nat.ofDigits 10 (digitsFromLast text) := by
  -- The least digit is the last one, so the induction takes the digits from the end.
  induction text using List.reverseRecOn with
  | nil => rfl
  | append_singleton front c ih =>
    have hdigits :
        digitsFromLast (front ++ [c]) = (c.toNat - '0'.toNat) :: digitsFromLast front := by
      rw [digitsFromLast, List.reverse_append, List.reverse_singleton, List.singleton_append,
        List.map_cons]
      rfl
    rw [value_concat, hdigits, Nat.ofDigits_cons, ih, Nat.add_comm]

/-! ### Zeros in front -/

/-- The text without the zeros in front, of which the last one stays if nothing else does. -/
def withoutZeros : List Char → List Char
  | '0' :: c :: rest => withoutZeros (c :: rest)
  | text => text

theorem withoutZeros_of_isTrimmed {text : List Char} (h : IsTrimmed text) :
    withoutZeros text = text := by
  unfold withoutZeros
  split
  · have hone := h rfl
    cases hone
  · rfl

theorem withoutZeros_zeros_append (n : Nat) {kept : List Char} (hne : kept ≠ [])
    (h : IsTrimmed kept) : withoutZeros (List.replicate n '0' ++ kept) = kept := by
  induction n with
  | zero => exact withoutZeros_of_isTrimmed h
  | succ n ih =>
    -- Behind the first zero there is something, be it a zero or the first character that is kept.
    obtain ⟨c, rest, hrest⟩ : ∃ c rest, List.replicate n '0' ++ kept = c :: rest :=
      List.exists_cons_of_ne_nil fun hnil => hne (List.append_eq_nil_iff.1 hnil).2
    rw [List.replicate_succ, List.cons_append, hrest, withoutZeros, ← hrest, ih]

/-- **What is written for the number of a text is the text without the zeros in front.** -/
theorem digits_value_eq_withoutZeros {text : List Char} (h : IsNumeral text) :
    digits (value text) = withoutZeros text := by
  obtain ⟨n, kept, rfl, hkept, htrimmed⟩ := exists_leading_zeros h
  rw [value_zeros_append, digits_value hkept htrimmed, withoutZeros_zeros_append n hkept.1 htrimmed]

end Decimal

namespace Amount

open Json

/-! ### Reading and writing -/

theorem parseWei_of_not_isNumeral {text : String} (h : ¬ Decimal.IsNumeral text.toList) :
    parseWei text = .error (notWei text) := by
  unfold parseWei
  split
  · rename_i wei hwei
    exact absurd (Decimal.natural?_eq_some_iff_isNumeral.1 hwei).1 h
  · rfl

theorem wei_of_parseWei {text : String} {amount : Amount} (h : parseWei text = .ok amount) :
    amount.wei = Nat.ofDigits 10 (Decimal.digitsFromLast text.toList) := by
  obtain ⟨-, rfl⟩ := parseWei_eq_ok_iff_isNumeral.1 h
  exact Decimal.value_eq_ofDigits _

theorem toList_weiText_of_parseWei {text : String} {amount : Amount}
    (h : parseWei text = .ok amount) :
    amount.weiText.toList = Decimal.withoutZeros text.toList := by
  obtain ⟨hnumeral, rfl⟩ := parseWei_eq_ok_iff_isNumeral.1 h
  rw [weiText, Decimal.toString_eq_digits, String.toList_ofList,
    Decimal.digits_value_eq_withoutZeros hnumeral]

/-! ### Amounts in JSON -/

theorem decoder_eq_ok_iff {origin : Origin} {document : Document} {amount : Amount} :
    decoder origin document = .ok amount ↔
      ∃ text, document = .scalar (.string (some text)) ∧ parseWei text = .ok amount := by
  have hread (text : String) :
      (parseWei text).mapError Error.message = .ok amount ↔ parseWei text = .ok amount := by
    cases parseWei text with
    | ok wei => simp [Except.mapError]
    | error e => simp [Except.mapError]
  rw [decoder, Decoder.ofString_eq_ok_iff]
  simp only [hread]

/-- A value is an amount if it is a string with wei. -/
theorem decoder_ofValue_eq_ok_iff {value : Json} {amount : Amount} :
    Decoder.ofValue decoder value = .ok amount ↔
      ∃ text, value = .string text ∧ parseWei text = .ok amount := by
  rw [Decoder.ofValue, decoder_eq_ok_iff]
  simp only [toDocument_eq_string_iff]

/-- A text is an amount if it is the text of a string with wei. -/
theorem decoder_ofText_eq_ok_iff {text : String} {amount : Amount} :
    Decoder.ofText decoder text = .ok amount ↔
      ∃ contents, Json.parse text = .ok (.string contents) ∧ parseWei contents = .ok amount := by
  rw [Decoder.ofText_eq_ok_iff]
  simp only [decoder_eq_ok_iff, parse_eq_string_iff]
  constructor
  · rintro ⟨document, htext, contents, rfl, hparse⟩
    exact ⟨contents, htext, hparse⟩
  · rintro ⟨contents, htext, hparse⟩
    exact ⟨_, htext, contents, rfl, hparse⟩

theorem decoder_ofValue_json (amount : Amount) :
    Decoder.ofValue decoder amount.json = .ok amount :=
  decoder_ofValue_eq_ok_iff.2 ⟨amount.weiText, rfl, parseWei_weiText amount⟩

theorem decoder_ofText_render (amount : Amount) :
    Decoder.ofText decoder amount.json.render = .ok amount := by
  have hexact : amount.json.IsExact := trivial
  refine decoder_ofText_eq_ok_iff.2 ⟨amount.weiText, ?_, parseWei_weiText amount⟩
  rw [parse_eq_string_iff, Document.ofText_render hexact]
  rfl

/-- **Wei are read and written exactly.** A text with wei is a row of digits of any length, read as
what the digits count by their places, and any other text is refused. What is written for what was
read is the text without the zeros in front, and what is written is read back, also as JSON. JSON
is an amount if and only if it is a string with such a text. So the order and the sums of amounts
are those of the numbers that the texts stand for. -/
theorem wei_exact :
    (∀ text, (∃ amount, parseWei text = .ok amount) ↔ Decimal.IsNumeral text.toList) ∧
    (∀ text, ¬ Decimal.IsNumeral text.toList → parseWei text = .error (notWei text)) ∧
    (∀ text amount, parseWei text = .ok amount →
      amount.wei = Nat.ofDigits 10 (Decimal.digitsFromLast text.toList) ∧
      amount.weiText.toList = Decimal.withoutZeros text.toList) ∧
    (∀ amount, parseWei amount.weiText = .ok amount ∧
      Decoder.ofValue decoder amount.json = .ok amount ∧
      Decoder.ofText decoder amount.json.render = .ok amount) ∧
    (∀ value amount, Decoder.ofValue decoder value = .ok amount ↔
      ∃ text, value = .string text ∧ parseWei text = .ok amount) ∧
    (∀ text amount, Decoder.ofText decoder text = .ok amount ↔
      ∃ contents, Json.parse text = .ok (.string contents) ∧ parseWei contents = .ok amount) ∧
    ∀ text other a b, parseWei text = .ok a → parseWei other = .ok b →
      let number (text : String) := Nat.ofDigits 10 (Decimal.digitsFromLast text.toList)
      a.order b = compare (number text) (number other) ∧
      (a.add b).wei = number text + number other := by
  refine ⟨fun text => exists_parseWei_eq_ok_iff, fun text h => parseWei_of_not_isNumeral h,
    fun text amount h => ⟨wei_of_parseWei h, toList_weiText_of_parseWei h⟩,
    fun amount => ⟨parseWei_weiText amount, decoder_ofValue_json amount,
      decoder_ofText_render amount⟩,
    fun value amount => decoder_ofValue_eq_ok_iff, fun text amount => decoder_ofText_eq_ok_iff,
    fun text other a b ha hb => ?_⟩
  have hleft := wei_of_parseWei ha
  have hright := wei_of_parseWei hb
  exact ⟨by rw [order, hleft, hright], by rw [add, hleft, hright]⟩

/-- Sixty ones, which are more than any machine word holds, with two zeros in front. -/
def longText : String :=
  "00111111111111111111111111111111111111111111111111111111111111"

/-- What the sixty ones count. -/
def longAmount : Amount :=
  ⟨111111111111111111111111111111111111111111111111111111111111⟩

theorem wei_exact_long :
    parseWei longText = .ok longAmount ∧
    longAmount.weiText.toList = List.replicate 60 '1' ∧
    longAmount.order ⟨9⟩ = .gt ∧ (longAmount.add ⟨9⟩).wei = longAmount.wei + 9 ∧
    parseWei "1_000" = .error (notWei "1_000") := by
  obtain ⟨hread, hrefuse, hexact, -, -, -, hcompare⟩ := wei_exact
  have hlong : parseWei longText = .ok longAmount := by rfl
  have hnine : parseWei "9" = .ok ⟨9⟩ := by rfl
  obtain ⟨horder, hsum⟩ := hcompare _ _ _ _ hlong hnine
  refine ⟨hlong, ?_, ?_, ?_, hrefuse _ fun h => ?_⟩
  · rw [(hexact _ _ hlong).2]
    decide +kernel
  · rw [horder]
    decide +kernel
  · rw [hsum]
    decide +kernel
  · exact absurd (h.2 '_' (by decide +kernel)) (by decide)

end Amount

end Remit
