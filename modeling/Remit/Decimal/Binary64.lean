/-!
# Doubles as exact numbers

A finite double is a sign, a natural significand and a power of two. Everything the library says
about a double, whether its shortest decimal text or the integer nearest to it, it computes from
these three in exact arithmetic.
-/

namespace Remit

/-- What a double stands for: `± significand · 2 ^ exponent`, an infinity, or no number. -/
inductive Binary64 where
  | finite (isNegative : Bool) (significand : Nat) (exponent : Int)
  | infinite (isNegative : Bool)
  | notANumber
  deriving DecidableEq

namespace Binary64

/-- Reads the 64 bits of a double: a sign bit, 11 exponent bits, 52 fraction bits. The exponent
field 0 has no hidden bit, the field 2047 is for the infinities and for what is no number. -/
def ofBits (bits : UInt64) : Binary64 :=
  let n := bits.toNat
  let isNegative := n / Nat.pow 2 63 = 1
  let field := n / Nat.pow 2 52 % 2048
  let fraction := n % Nat.pow 2 52
  if field = 2047 then
    if fraction = 0 then infinite isNegative else notANumber
  else if field = 0 then finite isNegative fraction (-1074)
  else finite isNegative (Nat.pow 2 52 + fraction) (Int.ofNat field - 1075)

/-- What a double stands for. -/
def ofFloat (x : Float) : Binary64 := ofBits x.toBits

/-- The natural number nearest to `significand · 2 ^ exponent`; a half goes up. -/
def roundHalfUp (significand : Nat) (exponent : Int) : Nat :=
  match exponent with
  | .ofNat e => significand * Nat.pow 2 e
  | .negSucc e => (significand + Nat.pow 2 e) / Nat.pow 2 (e + 1)

end Binary64

end Remit
