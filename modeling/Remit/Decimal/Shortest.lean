import Remit.Decimal.Binary64

/-!
# Shortest decimal text of a double

A double is written with the fewest significant digits that read back as it, and among those with
the ones nearest to it. The digits are found in exact arithmetic: all decimals between the
midpoints to the neighbouring doubles read back (the midpoints themselves when the significand is
even), and for one digit, two digits and so on the two decimals next to the value are tried. Which
of two that are equally near is taken is a `Tie`.

Two notations use these digits. `positional` never has an exponent and no point after a whole
number; `scientific` has a point in every plain number and an exponent outside 10⁻⁵ to 10¹⁶.
-/

namespace Remit.Decimal

/-- A decimal `digits · 10 ^ exponent`. -/
structure Scaled where
  digits : Nat
  exponent : Int
  deriving DecidableEq

/-! ### The digits -/

/-- Which of two decimals is taken that are equally near. -/
inductive Tie where
  /-- The greater one. -/
  | up
  /-- The one whose last digit is even. -/
  | even
  deriving DecidableEq

/-- Whether `n / d ≤ n' / d'`, for positive denominators. -/
def ratioLe (n d n' d' : Nat) : Bool := n * d' ≤ n' * d

/-- The decimals that read back as one double, as fractions over one denominator, with the value
itself; `closed` says whether the ends belong to them. -/
structure Interval where
  low : Nat
  value : Nat
  high : Nat
  denominator : Nat
  closed : Bool

/-- The interval of `significand · 2 ^ exponent`. Below a power of two the neighbour is only half
as far away as above it. -/
def Interval.ofBinary (significand : Nat) (exponent : Int) : Interval :=
  let isPower := significand = Nat.pow 2 52 ∧ exponent ≠ -1074
  let low := 4 * significand - if isPower then 1 else 2
  let high := 4 * significand + 2
  let closed := significand % 2 = 0
  match exponent - 2 with
  | .ofNat e => ⟨low * Nat.pow 2 e, 4 * significand * Nat.pow 2 e, high * Nat.pow 2 e, 1, closed⟩
  | .negSucc e => ⟨low, 4 * significand, high, Nat.pow 2 (e + 1), closed⟩

/-- The decimal `digits · 10 ^ exponent` as a fraction. -/
def Scaled.fraction (s : Scaled) : Nat × Nat :=
  match s.exponent with
  | .ofNat e => (s.digits * Nat.pow 10 e, 1)
  | .negSucc e => (s.digits, Nat.pow 10 (e + 1))

/-- The decimal reads back as the double of the interval. -/
def Interval.holds (i : Interval) (s : Scaled) : Bool :=
  let (n, d) := s.fraction
  if i.closed then ratioLe i.low i.denominator n d && ratioLe n d i.high i.denominator
  else !ratioLe n d i.low i.denominator && !ratioLe i.high i.denominator n d

/-- The exponent of the first significant digit of a positive value. -/
def Interval.leadingExponent (i : Interval) : Int :=
  let guess : Int := (i.value.repr.length : Int) - i.denominator.repr.length
  let (n, d) := Scaled.fraction ⟨1, guess⟩
  if ratioLe n d i.value i.denominator then guess else guess - 1

/-- The two decimals next to the value on the grid of multiples of `10 ^ exponent`. -/
def Interval.neighbours (i : Interval) (exponent : Int) : Scaled × Scaled :=
  let below := match exponent with
    | .ofNat e => i.value / (i.denominator * Nat.pow 10 e)
    | .negSucc e => i.value * Nat.pow 10 (e + 1) / i.denominator
  (⟨below, exponent⟩, ⟨below + 1, exponent⟩)

/-- The lower neighbour is taken, since it is nearer to the value than the upper one, or equally
near and the tie goes to it. -/
def Interval.prefersLower (i : Interval) (tie : Tie) (below above : Scaled) : Bool :=
  let (n, d) := below.fraction
  let (n', d') := above.fraction
  -- compares the value to the middle between the two
  let value := 2 * i.value * (d * d')
  let middle := i.denominator * (n * d' + n' * d)
  value < middle || (value == middle && tie == .even && below.digits % 2 == 0)

/-- The nearest decimal with the given number of digits that reads back, if one does. -/
def Interval.nearest? (i : Interval) (tie : Tie) (count : Nat) : Option Scaled :=
  let (below, above) := i.neighbours (i.leadingExponent - (count : Int) + 1)
  match i.holds below, i.holds above with
  | true, true => some (if i.prefersLower tie below above then below else above)
  | true, false => some below
  | false, true => some above
  | false, false => none

/-- Without the zeros that the digits end in; at most `fuel` of them. -/
def Scaled.trimZeros (s : Scaled) : (fuel : Nat) → Scaled
  | 0 => s
  | fuel + 1 =>
    if s.digits % 10 = 0 ∧ s.digits ≠ 0 then
      Scaled.trimZeros ⟨s.digits / 10, s.exponent + 1⟩ fuel
    else s

/-- The shortest decimal that reads back as `significand · 2 ^ exponent`, a positive double.
Seventeen digits always suffice. -/
def shortest (tie : Tie) (significand : Nat) (exponent : Int) : Scaled :=
  let interval := Interval.ofBinary significand exponent
  let found := (List.range 17).findSome? fun k => interval.nearest? tie (k + 1)
  (found.getD ⟨significand, exponent⟩).trimZeros 18

/-! ### The notations -/

/-- The digits with the point at its place, and zeros up to it. -/
def Scaled.plain (s : Scaled) : List Char :=
  let digits := Nat.toDigits 10 s.digits
  match s.exponent with
  | .ofNat e => digits ++ List.replicate e '0'
  | .negSucc e =>
    let places := e + 1
    if places < digits.length then
      digits.take (digits.length - places) ++ '.' :: digits.drop (digits.length - places)
    else '0' :: '.' :: List.replicate (places - digits.length) '0' ++ digits

/-- A minus sign before the text of a negative number. -/
def signed (isNegative : Bool) (text : List Char) : List Char :=
  if isNegative then '-' :: text else text

/-- A double without exponent: `1.5`, `100`, `-0.0000001`, `NaN`, `inf`. -/
def positional (x : Float) : String :=
  String.ofList <| match Binary64.ofFloat x with
    | .notANumber => ['N', 'a', 'N']
    | .infinite isNegative => signed isNegative ['i', 'n', 'f']
    | .finite isNegative 0 _ => signed isNegative ['0']
    | .finite isNegative m e => signed isNegative (shortest .up m e).plain

/-- One digit, the others behind a point, and the exponent with its sign. -/
def Scaled.scientific (s : Scaled) : List Char :=
  let digits := Nat.toDigits 10 s.digits
  let exponent := s.exponent + (digits.length : Int) - 1
  let mantissa := match digits with
    | [] => []
    | [d] => [d]
    | d :: rest => d :: '.' :: rest
  mantissa ++ 'e' :: (if exponent < 0 then '-' else '+') :: Nat.toDigits 10 exponent.natAbs

/-- A double as a number of a data format: `1.0`, `0.00001`, `1e-6`, `1.5e+300`. What is no
finite number has no text and is shown as `null`. -/
def scientific (x : Float) : String :=
  String.ofList <| match Binary64.ofFloat x with
    | .notANumber | .infinite _ => ['n', 'u', 'l', 'l']
    | .finite isNegative 0 _ => signed isNegative ['0', '.', '0']
    | .finite isNegative m e =>
      let s := shortest .even m e
      let leading := s.exponent + (Nat.toDigits 10 s.digits).length - 1
      signed isNegative <|
        if -5 ≤ leading ∧ leading ≤ 15 then
          if 0 ≤ s.exponent then s.plain ++ ['.', '0'] else s.plain
        else s.scientific

end Remit.Decimal
