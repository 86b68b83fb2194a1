import Remit.Bytes
import Remit.Decimal.Natural
import Remit.Decimal.Shortest
import Remit.Error
import Remit.Json.Decoder

/-!
# Amounts

Money is counted in wei, natural numbers without a bound. Two decimal texts stand for an amount:
its wei, which is how amounts travel, and its coins, with a point and at most 18 places, which is
how people write them. Both are exact. An amount may also be given as a double in coins, which is
rounded to the nearest wei.

## Main statements

* `Amount.parseWei_weiText`: reading a number of wei inverts writing it.
* `Amount.parseWei_eq_ok_iff`: exactly the non-empty rows of digits are read.
-/

namespace Remit

/-- A natural number of wei. -/
structure Amount where
  wei : Nat
  deriving DecidableEq

namespace Amount

/-- A coin has this many decimal places. -/
def places : Nat := 18

/-- The wei of a coin. -/
def weiPerCoin : Nat := Nat.pow 10 places

/-- No money. -/
def zero : Amount := ⟨0⟩

/-- The sum of two amounts, which always exists. -/
def add (a b : Amount) : Amount := ⟨a.wei + b.wei⟩

/-- The order of the amounts. -/
def order (a b : Amount) : Ordering := compare a.wei b.wei

/-! ### Wei -/

/-- The number of wei in decimal. -/
def weiText (amount : Amount) : String := toString amount.wei

/-- The amount with its unit, for a log. -/
def description (amount : Amount) : String := s!"Amount({amount.wei} wei)"

/-- A text is no number of wei. -/
def notWei (text : String) : Error :=
  .format s!"amount must be a non-negative integer, got {Text.quoted text}"

/-- Reads a number of wei: digits only, and at least one. -/
def parseWei (text : String) : Except Error Amount :=
  match Decimal.natural? text.toList with
  | some wei => .ok ⟨wei⟩
  | none => .error (notWei text)

/-- An amount as a JSON string with its wei. -/
def json (amount : Amount) : Json := .string amount.weiText

/-- An amount from a JSON string with its wei. -/
def decoder : Json.Decoder Amount :=
  Json.Decoder.ofString fun text => (parseWei text).mapError Error.message

theorem parseWei_eq_ok_iff {text : String} {amount : Amount} :
    parseWei text = .ok amount ↔ Decimal.natural? text.toList = some amount.wei := by
  unfold parseWei
  cases Decimal.natural? text.toList with
  | none => simp
  | some wei => cases amount; simp

@[simp] theorem parseWei_weiText (amount : Amount) : parseWei amount.weiText = .ok amount := by
  simpa [parseWei_eq_ok_iff, weiText, Decimal.digits] using Decimal.natural?_digits amount.wei

/-! ### Coins -/

/-- The coins in decimal: no point after a whole number, and no zeros at the end. -/
def coinText (amount : Amount) : String :=
  let whole := Decimal.digits (amount.wei / weiPerCoin)
  let rest := amount.wei % weiPerCoin
  if rest = 0 then String.ofList whole
  else
    let digits := Decimal.digits rest
    let padded := List.replicate (places - digits.length) '0' ++ digits
    String.ofList (whole ++ '.' :: (padded.reverse.dropWhile (· = '0')).reverse)

/-- A text is no decimal. -/
def notCoins (text : String) : Error := .format s!"malformed RELYO amount {Text.quoted text}"

/-- A decimal is finer than wei. -/
def tooFine (text : String) : Error :=
  .format s!"RELYO amount {Text.quoted text} has more than {places} decimal places"

/-- What stands before the first point, and what stands behind it if there is one. -/
def splitAtPoint (text : List Char) : List Char × Option (List Char) :=
  match text.dropWhile (· ≠ '.') with
  | [] => (text, none)
  | _ :: fraction => (text.takeWhile (· ≠ '.'), some fraction)

/-- Reads a decimal number of coins exactly. The places are counted in bytes, and before anything
is said about what they are. -/
def parseCoins (text : String) : Except Error Amount :=
  let (whole, fraction?) := splitAtPoint text.toList
  let fraction := fraction?.getD []
  if whole.isEmpty || fraction? = some [] then .error (notCoins text)
  else if Bytes.utf8Length fraction > places then .error (tooFine text)
  else if !(whole ++ fraction).all Char.isDigit then .error (notCoins text)
  else .ok ⟨Decimal.value (whole ++ fraction ++ List.replicate (places - fraction.length) '0')⟩

/-! ### Doubles -/

/-- A double is no amount. -/
def notFiniteCoins (coins : Float) : Error :=
  .format s!"display amount must be a finite non-negative number, got {Decimal.positional coins}"

/-- A double has no double that is a coin's wei times as large. -/
def outOfRange (coins : Float) : Error :=
  .format s!"display amount {Decimal.positional coins} out of range"

/-- The amount nearest to a number of coins, of which the product with the wei of a coin is itself
taken as a double. -/
def ofCoins (coins : Float) : Except Error Amount :=
  if coins < 0 then .error (notFiniteCoins coins)
  else
    match Binary64.ofFloat coins with
    | .finite _ _ _ =>
      match Binary64.ofFloat (coins * Float.ofNat weiPerCoin) with
      | .finite _ significand exponent => .ok ⟨Binary64.roundHalfUp significand exponent⟩
      | _ => .error (outOfRange coins)
    | _ => .error (notFiniteCoins coins)

end Amount

/-- An amount as it is given: exact, or a double in coins. -/
inductive AmountInput where
  | exact (amount : Amount)
  | coins (value : Float)

/-- The amount that is meant. -/
def AmountInput.resolve : AmountInput → Except Error Amount
  | exact amount => .ok amount
  | coins value => Amount.ofCoins value

end Remit
