import Remit.Decimal.Shortest

/-!
# JSON values

A JSON value keeps the members of an object in a list, in the order they were given; which of
several members with one name counts is a question for who reads it. Integers from -2⁶³ to 2⁶⁴ - 1
are exact, every other number is a double, held by its bits so that values can be compared.

Two printed forms are defined here. `Json.render` has no blanks at all; `Json.renderIndented` has
one member or item a line, two spaces deeper for each level. A quote, a backslash and the control
characters are escaped, and nothing else.
-/

namespace Remit

/-- A JSON number. -/
inductive Json.Number where
  | integer (value : Int)
  | double (bits : UInt64)
  deriving DecidableEq

/-- A JSON value. -/
inductive Json where
  | null
  | bool (value : Bool)
  | number (value : Json.Number)
  | string (text : String)
  | array (items : List Json)
  | object (members : List (String × Json))
  deriving Inhabited

namespace Json

/-- A natural number as a value. -/
def nat (n : Nat) : Json := number (.integer n)

/-- A text, or null. -/
def optionalString : Option String → Json
  | none => null
  | some text => string text

/-! ### Text of the parts -/

/-- The digits of an integer, with a sign if it is negative. -/
def integerText (value : Int) : List Char :=
  Decimal.signed (value < 0) (Nat.toDigits 10 value.natAbs)

/-- The text of a number. -/
def Number.text : Number → List Char
  | .integer value => integerText value
  | .double bits => (Decimal.scientific (Float.ofBits bits)).toList

/-- How a character stands in a string. -/
def escapeChar (c : Char) : List Char :=
  if c = '"' then ['\\', '"']
  else if c = '\\' then ['\\', '\\']
  else if c = '\x08' then ['\\', 'b']
  else if c = '\x0c' then ['\\', 'f']
  else if c = '\n' then ['\\', 'n']
  else if c = '\r' then ['\\', 'r']
  else if c = '\t' then ['\\', 't']
  else if c.toNat < 32 then
    ['\\', 'u', '0', '0', Nat.digitChar (c.toNat / 16), Nat.digitChar (c.toNat % 16)]
  else [c]

/-- A text as a string with its quotes. -/
def stringText (text : String) : List Char := '"' :: text.toList.flatMap escapeChar ++ ['"']

/-! ### Without blanks -/

mutual

/-- The characters of a value without blanks. -/
def chars : Json → List Char
  | null => ['n', 'u', 'l', 'l']
  | bool true => ['t', 'r', 'u', 'e']
  | bool false => ['f', 'a', 'l', 's', 'e']
  | number value => value.text
  | string text => stringText text
  | array items => '[' :: itemChars items
  | object members => '{' :: memberChars members

/-- The items of an array and its closing bracket. -/
def itemChars : List Json → List Char
  | [] => [']']
  | [item] => item.chars ++ [']']
  | item :: next :: rest => item.chars ++ ',' :: itemChars (next :: rest)

/-- The members of an object and its closing brace. -/
def memberChars : List (String × Json) → List Char
  | [] => ['}']
  | [(name, value)] => stringText name ++ ':' :: value.chars ++ ['}']
  | (name, value) :: next :: rest =>
    stringText name ++ ':' :: value.chars ++ ',' :: memberChars (next :: rest)

end

/-- The text of a value without blanks. -/
def render (value : Json) : String := String.ofList value.chars

/-! ### Indented -/

/-- A line end and the blanks of the given level. -/
def newLine (level : Nat) : List Char := '\n' :: List.replicate (2 * level) ' '

mutual

/-- The characters of a value whose first line is at the given level. -/
def indentedChars (level : Nat) : Json → List Char
  | array [] => ['[', ']']
  | object [] => ['{', '}']
  | array (item :: rest) =>
    '[' :: newLine (level + 1) ++ indentedItems (level + 1) (item :: rest) ++
      newLine level ++ [']']
  | object (member :: rest) =>
    '{' :: newLine (level + 1) ++ indentedMembers (level + 1) (member :: rest) ++
      newLine level ++ ['}']
  | null => ['n', 'u', 'l', 'l']
  | bool true => ['t', 'r', 'u', 'e']
  | bool false => ['f', 'a', 'l', 's', 'e']
  | number value => value.text
  | string text => stringText text

/-- Items on lines of their own. -/
def indentedItems (level : Nat) : List Json → List Char
  | [] => []
  | [item] => indentedChars level item
  | item :: next :: rest =>
    indentedChars level item ++ ',' :: newLine level ++ indentedItems level (next :: rest)

/-- Members on lines of their own. -/
def indentedMembers (level : Nat) : List (String × Json) → List Char
  | [] => []
  | [(name, value)] => stringText name ++ ':' :: ' ' :: indentedChars level value
  | (name, value) :: next :: rest =>
    stringText name ++ ':' :: ' ' :: indentedChars level value ++
      ',' :: newLine level ++ indentedMembers level (next :: rest)

end

/-- The text of a value with one member or item a line. -/
def renderIndented (value : Json) : String := String.ofList (value.indentedChars 0)

end Json

end Remit
