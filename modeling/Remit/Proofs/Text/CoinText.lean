import Remit.Proofs.Text.Coins

/-!
# Coins in decimal, there and back

A decimal in coins has two parts, the digits before its point and those behind it (`HasParts`), and
its wei are counted from these two (`weiOf`). Of all the decimals that stand for one amount, which
differ in the zeros at their ends alone, `Amount.coinText` writes the one without superfluous zeros.

* `Amount.parseCoins_eq_ok_iff_hasParts`: the decimals that are read, and the wei that they have;
* `Amount.coinText_eq_joined`: what is written is the decimal without superfluous zeros;
* `Amount.parseCoins_decides` and `Amount.coinText_canonical`: the same for all texts and amounts.
-/

namespace Remit.Amount

open Decimal

/-! ### Parts -/

/-- The digits with a point between them. There is no point if nothing would be behind it. -/
def joined (whole : List Char) : (fraction : List Char) → List Char
  | [] => whole
  | c :: rest => whole ++ '.' :: c :: rest

/-- The text is a decimal with these digits before and behind its point: one or more before it, and
if there is a point at all, 1 to 18 behind it. -/
structure HasParts (text whole fraction : List Char) : Prop where
  isNumeral : IsNumeral whole
  areDigits : AreDigits fraction
  length_le : fraction.length ≤ 18
  text_eq : text = joined whole fraction

/-- The wei of a decimal with the given parts. -/
def weiOf (whole fraction : List Char) : Nat :=
  value whole * 10 ^ 18 + value fraction * 10 ^ (18 - fraction.length)

theorem isDecimal_iff {text : List Char} {coins : ℚ} :
    IsDecimal 18 text coins ↔
      ∃ whole fraction, HasParts text whole fraction ∧
        coins = wholeValue whole + fractionValue fraction := by
  constructor
  · intro h
    cases h with
    | whole hdigits =>
      refine ⟨text, [], ⟨hdigits, fun c hc => absurd hc List.not_mem_nil, Nat.zero_le _, rfl⟩, ?_⟩
      exact (add_zero _).symm
    | @pointed whole fraction hdigits hfraction hplaces =>
      refine ⟨whole, fraction, ⟨hdigits, hfraction.2, hplaces, ?_⟩, rfl⟩
      cases fraction with
      | nil => exact absurd rfl hfraction.1
      | cons c rest => rfl
  · rintro ⟨whole, fraction, ⟨hwhole, hfraction, hplaces, rfl⟩, rfl⟩
    cases fraction with
    | nil =>
      rw [show fractionValue [] = 0 from rfl, add_zero]
      exact .whole hwhole
    | cons c rest => exact .pointed hwhole ⟨List.cons_ne_nil c rest, hfraction⟩ hplaces

theorem natCast_weiOf (whole : List Char) {fraction : List Char} (h : fraction.length ≤ 18) :
    (weiOf whole fraction : ℚ) = (wholeValue whole + fractionValue fraction) * 10 ^ 18 := by
  have hpow : (10 : ℚ) ^ 18 = 10 ^ (18 - fraction.length) * 10 ^ fraction.length := by
    rw [← pow_add, Nat.sub_add_cancel h]
  have hfraction : fractionValue fraction * 10 ^ 18 =
      value fraction * 10 ^ (18 - fraction.length) := by
    rw [fractionValue_eq, hpow]
    field_simp
  rw [weiOf, add_mul, hfraction, ← natCast_value]
  push_cast
  rfl

/-! ### Reading -/

theorem parseCoins_eq_ok_iff_hasParts {text : String} {amount : Amount} :
    parseCoins text = .ok amount ↔
      ∃ whole fraction, HasParts text.toList whole fraction ∧
        amount.wei = weiOf whole fraction := by
  rw [parseCoins_eq_ok_iff]
  constructor
  · rintro ⟨coins, hcoins, hwei⟩
    obtain ⟨whole, fraction, hparts, rfl⟩ := isDecimal_iff.1 hcoins
    refine ⟨whole, fraction, hparts, ?_⟩
    rw [← natCast_weiOf whole hparts.length_le] at hwei
    exact_mod_cast hwei
  · rintro ⟨whole, fraction, hparts, hwei⟩
    refine ⟨_, isDecimal_iff.2 ⟨whole, fraction, hparts, rfl⟩, ?_⟩
    rw [hwei, natCast_weiOf whole hparts.length_le]

/-- What is not read is refused for its form. -/
theorem parseCoins_format_of_ne_ok {text : String} (h : ∀ amount, parseCoins text ≠ .ok amount) :
    ∃ reason, parseCoins text = .error (.format reason) := by
  unfold parseCoins at h ⊢
  dsimp only at h ⊢
  split
  · exact ⟨_, rfl⟩
  · split
    · exact ⟨_, rfl⟩
    · split
      · exact ⟨_, rfl⟩
      · rename_i hparts hplaces hdigits
        rw [if_neg hparts, if_neg hplaces, if_neg hdigits] at h
        exact absurd rfl (h _)

/-- **Exactly the decimals of at most 18 places are read**, and as exactly their wei. Every other
text is refused for its form. -/
theorem parseCoins_decides (text : String) :
    (∀ amount, parseCoins text = .ok amount ↔
      ∃ whole fraction, HasParts text.toList whole fraction ∧
        amount.wei = value whole * 10 ^ 18 + value fraction * 10 ^ (18 - fraction.length)) ∧
    ((∃ reason, parseCoins text = .error (.format reason)) ↔
      ¬ ∃ whole fraction, HasParts text.toList whole fraction) := by
  refine ⟨fun amount => parseCoins_eq_ok_iff_hasParts, ?_, ?_⟩
  · rintro ⟨reason, herror⟩ ⟨whole, fraction, hparts⟩
    have hok : parseCoins text = .ok ⟨weiOf whole fraction⟩ :=
      parseCoins_eq_ok_iff_hasParts.2 ⟨whole, fraction, hparts, rfl⟩
    rw [hok] at herror
    cases herror
  · intro hnone
    refine parseCoins_format_of_ne_ok fun amount hok => ?_
    obtain ⟨whole, fraction, hparts, -⟩ := parseCoins_eq_ok_iff_hasParts.1 hok
    exact hnone ⟨whole, fraction, hparts⟩

/-- A second point is no digit, and neither is a digit of another script. -/
example : (parseCoins "1.5.0").toOption = none ∧ (parseCoins "١.5").toOption = none := by
  decide +kernel

/-! ### Writing -/

/-- No zero could be left out of the decimal with these parts: the first digit is a zero only if it
is alone before the point, and the last one behind the point is none. -/
structure IsShortest (whole fraction : List Char) : Prop where
  leading : whole.head? = some '0' → whole = ['0']
  trailing : fraction.getLast? ≠ some '0'

theorem weiOf_zeros (whole fraction : List Char) (leading : Nat) {trailing : Nat}
    (h : fraction.length + trailing ≤ 18) :
    weiOf (List.replicate leading '0' ++ whole) (fraction ++ List.replicate trailing '0') =
      weiOf whole fraction := by
  have hpow : 10 ^ (18 - fraction.length) =
      10 ^ trailing * 10 ^ (18 - (fraction.length + trailing)) := by
    rw [← Nat.pow_add]
    congr 1
    omega
  rw [weiOf, weiOf, value_zeros_append, value_append_zeros, List.length_append,
    List.length_replicate, hpow, Nat.mul_assoc]

/-- Zeros can be left out at both ends of a decimal until none is superfluous. -/
theorem HasParts.exists_isShortest {text whole fraction : List Char}
    (h : HasParts text whole fraction) :
    ∃ whole' fraction' leading trailing,
      IsShortest whole' fraction' ∧ HasParts (joined whole' fraction') whole' fraction' ∧
        whole = List.replicate leading '0' ++ whole' ∧
        fraction = fraction' ++ List.replicate trailing '0' ∧
        weiOf whole' fraction' = weiOf whole fraction := by
  obtain ⟨leading, whole', hwhole, hnumeral, htrimmed⟩ := exists_leading_zeros h.isNumeral
  obtain ⟨fraction', trailing, hfraction, hdigits, hlast⟩ := exists_trailing_zeros h.areDigits
  have hplaces : fraction'.length + trailing ≤ 18 := by
    have hlength := h.length_le
    rw [hfraction, List.length_append, List.length_replicate] at hlength
    exact hlength
  refine ⟨whole', fraction', leading, trailing, ⟨htrimmed, hlast⟩,
    ⟨hnumeral, hdigits, by omega, rfl⟩, hwhole, hfraction, ?_⟩
  rw [hwhole, hfraction, weiOf_zeros _ _ _ hplaces]

/-- **What is written is the decimal without superfluous zeros.** -/
theorem coinText_eq_joined {whole fraction : List Char} (hs : IsShortest whole fraction)
    (h : HasParts (joined whole fraction) whole fraction) {amount : Amount}
    (hwei : amount.wei = weiOf whole fraction) :
    amount.coinText = String.ofList (joined whole fraction) := by
  have hplaces := h.length_le
  -- The wei behind the point are the digits there with zeros up to the last place.
  set padded := fraction ++ List.replicate (18 - fraction.length) '0' with hpadded
  have hlength : padded.length = 18 := by
    rw [hpadded, List.length_append, List.length_replicate]
    omega
  have hdigits : AreDigits padded := h.areDigits.append (areDigits_replicate_zero _)
  have hlt : value padded < weiPerCoin := by
    have hbound := value_lt hdigits
    rw [hlength] at hbound
    exact hbound
  have hsplit : amount.wei = weiPerCoin * value whole + value padded := by
    rw [hwei, weiOf, hpadded, value_append_zeros, Nat.mul_comm (value whole)]
    rfl
  have hdiv : amount.wei / weiPerCoin = value whole := by
    rw [hsplit, Nat.mul_add_div (Nat.zero_lt_of_lt hlt), Nat.div_eq_of_lt hlt, Nat.add_zero]
  have hmod : amount.wei % weiPerCoin = value padded := by
    rw [hsplit, Nat.mul_add_mod, Nat.mod_eq_of_lt hlt]
  have hnumeral : IsNumeral padded := by
    refine ⟨fun hnil => ?_, hdigits⟩
    rw [hnil] at hlength
    cases hlength
  have hback : List.replicate (places - (digits (value padded)).length) '0' ++
      digits (value padded) = padded := by
    have hzeros := zeros_append_digits_value hnumeral
    rwa [hlength] at hzeros
  unfold coinText
  rw [hdiv, hmod, digits_value h.isNumeral hs.leading]
  dsimp only
  rw [hback]
  cases hfraction : fraction with
  | nil =>
    have hzero : value padded = 0 := by
      rw [hpadded, hfraction]
      exact value_replicate_zero 18
    rw [if_pos hzero]
    rfl
  | cons c rest =>
    have hpos : 0 < value padded := by
      rw [hpadded, value_append_zeros]
      have hfirst := value_pos h.areDigits (by rw [hfraction]; exact List.cons_ne_nil c rest)
        hs.trailing
      positivity
    have htrim : (padded.reverse.dropWhile (· = '0')).reverse = fraction :=
      rdropWhile_trailing_zeros hs.trailing _
    rw [if_neg hpos.ne', htrim, hfraction]
    rfl

/-- Every decimal is rewritten as the one without superfluous zeros. -/
theorem exists_coinText_of_hasParts {text whole fraction : List Char}
    (h : HasParts text whole fraction) {amount : Amount}
    (hwei : amount.wei = weiOf whole fraction) :
    ∃ whole' fraction' leading trailing,
      IsShortest whole' fraction' ∧ HasParts amount.coinText.toList whole' fraction' ∧
        whole = List.replicate leading '0' ++ whole' ∧
        fraction = fraction' ++ List.replicate trailing '0' ∧
        amount.wei = weiOf whole' fraction' := by
  obtain ⟨whole', fraction', leading, trailing, hs, hparts, hwhole, hfraction, hsame⟩ :=
    h.exists_isShortest
  refine ⟨whole', fraction', leading, trailing, hs, ?_, hwhole, hfraction, hwei.trans hsame.symm⟩
  rw [coinText_eq_joined hs hparts (hwei.trans hsame.symm), String.toList_ofList]
  exact hparts

/-- Every amount has a decimal, namely one with all 18 places. -/
theorem exists_hasParts (amount : Amount) :
    ∃ text whole fraction, HasParts text whole fraction ∧ amount.wei = weiOf whole fraction := by
  set rest := amount.wei % weiPerCoin with hrest
  have hlt : rest < 10 ^ 18 := Nat.mod_lt _ (by decide)
  have hlength : (digits rest).length ≤ 18 :=
    (Nat.length_toDigits_le_iff (by decide) (by decide)).2 hlt
  set fraction := List.replicate (18 - (digits rest).length) '0' ++ digits rest with hfraction
  have hplaces : fraction.length = 18 := by
    rw [hfraction, List.length_append, List.length_replicate]
    omega
  have hvalue : value fraction = rest := by
    rw [hfraction, value_zeros_append, value_digits]
  refine ⟨_, digits (amount.wei / weiPerCoin), fraction, ⟨isNumeral_digits _, ?_, hplaces.le, rfl⟩,
    ?_⟩
  · exact (areDigits_replicate_zero _).append (isNumeral_digits rest).2
  · rw [weiOf, value_digits, hvalue, hplaces, Nat.sub_self, Nat.pow_zero, Nat.mul_one, hrest,
      Nat.mul_comm]
    exact (Nat.div_add_mod _ _).symm

theorem exists_hasParts_coinText (amount : Amount) :
    ∃ whole fraction, IsShortest whole fraction ∧ HasParts amount.coinText.toList whole fraction ∧
      amount.wei = weiOf whole fraction := by
  obtain ⟨text, whole, fraction, hparts, hwei⟩ := exists_hasParts amount
  obtain ⟨whole', fraction', -, -, hs, hparts', -, -, hwei'⟩ :=
    exists_coinText_of_hasParts hparts hwei
  exact ⟨whole', fraction', hs, hparts', hwei'⟩

theorem parseCoins_coinText (amount : Amount) : parseCoins amount.coinText = .ok amount := by
  obtain ⟨whole, fraction, -, hparts, hwei⟩ := exists_hasParts_coinText amount
  exact parseCoins_eq_ok_iff_hasParts.2 ⟨whole, fraction, hparts, hwei⟩

/-- **The text of an amount is lossless and canonical.** It is read as the amount again, and no zero
in it is superfluous. Whatever text is read as the amount differs from it only in zeros before and
behind, with the point if nothing is left behind it; and no other amount has this text. -/
theorem coinText_canonical :
    (∀ amount : Amount, parseCoins amount.coinText = .ok amount) ∧
    (∀ amount : Amount, ∃ whole fraction,
      HasParts amount.coinText.toList whole fraction ∧ IsShortest whole fraction) ∧
    (∀ text amount, parseCoins text = .ok amount →
      ∃ whole fraction leading trailing,
        HasParts text.toList (List.replicate leading '0' ++ whole)
          (fraction ++ List.replicate trailing '0') ∧
        HasParts amount.coinText.toList whole fraction ∧ IsShortest whole fraction) ∧
    Function.Injective coinText := by
  refine ⟨parseCoins_coinText, fun amount => ?_, fun text amount h => ?_, fun a b h => ?_⟩
  · obtain ⟨whole, fraction, hs, hparts, -⟩ := exists_hasParts_coinText amount
    exact ⟨whole, fraction, hparts, hs⟩
  · obtain ⟨whole, fraction, hparts, hwei⟩ := parseCoins_eq_ok_iff_hasParts.1 h
    obtain ⟨whole', fraction', leading, trailing, hs, hparts', rfl, rfl, -⟩ :=
      exists_coinText_of_hasParts hparts hwei
    exact ⟨whole', fraction', leading, trailing, hparts, hparts', hs⟩
  · have ha := parseCoins_coinText a
    rw [h, parseCoins_coinText b] at ha
    exact (Except.ok.inj ha).symm

theorem coinText_canonical_zeros :
    parseCoins "007.0500" = .ok ⟨7050000000000000000⟩ ∧
    (∃ whole fraction leading trailing,
      HasParts "007.0500".toList (List.replicate leading '0' ++ whole)
        (fraction ++ List.replicate trailing '0') ∧
      HasParts (coinText ⟨7050000000000000000⟩).toList whole fraction ∧
        IsShortest whole fraction) ∧
    coinText ⟨7050000000000000000⟩ = "7.05" := by
  have hread : parseCoins "007.0500" = .ok ⟨7050000000000000000⟩ := by decide +kernel
  exact ⟨hread, coinText_canonical.2.2.1 _ _ hread, by decide +kernel⟩

end Remit.Amount
