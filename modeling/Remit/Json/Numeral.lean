import Remit.Json.Value

/-!
# Numbers in JSON text

A number is read in two steps. `Numeral.scan` splits off the longest number that the grammar
allows; `Numeral.value?` says what it stands for. An integer that fits into 64 bits is exact. Any
other number becomes a double in a way that is quick and not always exact: as many leading digits
as fit into 64 bits are converted and then scaled by a power of ten, which rounds twice. A number
whose double would be infinite has no value.

## Main statements

* `Numeral.scan_length`: a number that is split off is not empty.
-/

namespace Remit.Json

/-- The parts of a written number. -/
structure Numeral where
  isNegative : Bool
  /-- The digits before the point. -/
  whole : List Char
  /-- The digits behind the point; none if there is no point. -/
  fraction : List Char
  /-- Whether the exponent is negative, and its digits. -/
  exponent : Option (Bool × List Char)

namespace Numeral

/-! ### Splitting off -/

/-- Splits off the digits that the text starts with, which have to be at least one. -/
def scanDigits? (text : List Char) : Option (List Char × List Char) :=
  match text.takeWhile Char.isDigit with
  | [] => none
  | digits => some (digits, text.dropWhile Char.isDigit)

/-- Splits off the decimal places, if a point follows. -/
def scanFraction? (text : List Char) : Option (List Char × List Char) :=
  match text with
  | '.' :: rest => scanDigits? rest
  | _ => some ([], text)

/-- Splits off the exponent, if its letter follows. -/
def scanExponent? (text : List Char) : Option (Option (Bool × List Char) × List Char) :=
  match text with
  | c :: rest =>
    if c = 'e' ∨ c = 'E' then
      let (isNegative, rest) := match rest with
        | '+' :: rest => (false, rest)
        | '-' :: rest => (true, rest)
        | _ => (false, rest)
      (scanDigits? rest).map fun (digits, rest) => (some (isNegative, digits), rest)
    else some (none, text)
  | [] => some (none, [])

/-- Splits off the number that the text starts with. A whole part of several digits does not
start with a zero. -/
def scan (text : List Char) : Option (Numeral × List Char) :=
  let (isNegative, text) := match text with
    | '-' :: rest => (true, rest)
    | _ => (false, text)
  match scanDigits? text with
  | none => none
  | some (whole, rest) =>
    if whole.head? = some '0' ∧ whole.length ≠ 1 then none
    else match scanFraction? rest with
      | none => none
      | some (fraction, rest) =>
        match scanExponent? rest with
        | none => none
        | some (exponent, rest) => some (⟨isNegative, whole, fraction, exponent⟩, rest)

theorem scanDigits?_length {text digits rest : List Char}
    (h : scanDigits? text = some (digits, rest)) : rest.length < text.length := by
  unfold scanDigits? at h
  split at h
  · cases h
  · rename_i hne
    simp only [Option.some.injEq, Prod.mk.injEq] at h
    have hlen : (text.takeWhile Char.isDigit).length + (text.dropWhile Char.isDigit).length
        = text.length := by
      rw [← List.length_append, List.takeWhile_append_dropWhile]
    have hpos : 0 < (text.takeWhile Char.isDigit).length :=
      List.length_pos_iff.2 (fun he => hne he)
    rw [← h.2]; omega

theorem scanFraction?_length {text digits rest : List Char}
    (h : scanFraction? text = some (digits, rest)) : rest.length ≤ text.length := by
  unfold scanFraction? at h
  split at h
  · have := scanDigits?_length h
    simp only [List.length_cons]; omega
  · simp only [Option.some.injEq, Prod.mk.injEq] at h
    exact Nat.le_of_eq (congrArg List.length h.2.symm)

theorem scanExponent?_length {text rest : List Char} {exponent : Option (Bool × List Char)}
    (h : scanExponent? text = some (exponent, rest)) : rest.length ≤ text.length := by
  unfold scanExponent? at h
  split at h
  · rename_i c tail
    split at h
    · simp only [Option.map_eq_some_iff] at h
      obtain ⟨⟨digits, rest'⟩, hd, he⟩ := h
      simp only [Prod.mk.injEq] at he
      have := scanDigits?_length hd
      rw [← he.2]
      split at this <;> simp_all <;> omega
    · simp only [Option.some.injEq, Prod.mk.injEq] at h
      exact Nat.le_of_eq (congrArg List.length h.2.symm)
  · simp only [Option.some.injEq, Prod.mk.injEq] at h
    exact Nat.le_of_eq (congrArg List.length h.2.symm)

theorem scan_length {text rest : List Char} {numeral : Numeral}
    (h : scan text = some (numeral, rest)) : rest.length < text.length := by
  unfold scan at h
  simp only at h
  split at h
  · cases h
  · rename_i whole rest₁ h₁
    split at h
    · cases h
    · split at h
      · cases h
      · rename_i fraction rest₂ h₂
        split at h
        · cases h
        · rename_i exponent rest₃ h₃
          simp only [Option.some.injEq, Prod.mk.injEq] at h
          have l₁ := scanDigits?_length h₁
          have l₂ := scanFraction?_length h₂
          have l₃ := scanExponent?_length h₃
          rw [← h.2]
          split at l₁ <;> simp_all <;> omega

/-! ### Values -/

/-- The numbers below this bound fit into 64 bits. -/
def wordLimit : Nat := UInt64.size

/-- Appends digits to a significand as long as it fits into 64 bits, and returns the digits that
are left over. -/
def absorb (significand : Nat) : List Char → Nat × List Char
  | [] => (significand, [])
  | c :: rest =>
    let next := 10 * significand + (c.toNat - 48)
    if next < wordLimit then absorb next rest else (significand, c :: rest)

/-- Ten to a power below 309 as a double. -/
def powerOfTen (n : Nat) : Float := Float.ofScientific 1 false n

/-- A double times a power of ten, in steps of 10⁻³⁰⁸; none if that is infinite. -/
def scale (x : Float) (exponent : Int) : Option Float :=
  if 308 < exponent then
    if x == 0.0 then some x else none
  else if 0 ≤ exponent then
    let y := x * powerOfTen exponent.toNat
    if y.isInf then none else some y
  else if -308 ≤ exponent then some (x / powerOfTen exponent.natAbs)
  else if x == 0.0 then some x
  else scale (x / powerOfTen 308) (exponent + 308)
termination_by exponent.natAbs
decreasing_by omega

/-- The double that a written number becomes. -/
def double? (n : Numeral) : Option Float :=
  let (significand, dropped) := absorb 0 n.whole
  let (significand, unused) := absorb significand n.fraction
  let places := n.fraction.length - unused.length
  let written : Int := match n.exponent with
    | none => 0
    | some (isNegative, digits) =>
      let value : Int := Nat.ofDigitChars 10 digits 0
      if isNegative then -value else value
  let magnitude :=
    scale (Nat.toUInt64 significand).toFloat ((dropped.length : Int) - places + written)
  magnitude.map fun x => if n.isNegative then -x else x

/-- What a written number stands for. There is no integer -0. -/
def value? (n : Numeral) : Option Number :=
  let magnitude := Nat.ofDigitChars 10 n.whole 0
  let isInteger := n.fraction.isEmpty && n.exponent.isNone
  if isInteger && !n.isNegative && magnitude < wordLimit then
    some (.integer magnitude)
  else if isInteger && n.isNegative && 0 < magnitude && magnitude ≤ Nat.pow 2 63 then
    some (.integer (-magnitude))
  else n.double?.map fun x => .double x.toBits

end Numeral

end Remit.Json
