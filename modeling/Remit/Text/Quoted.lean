import Remit.Text.Unprintable

/-!
# Quoted texts

Where a message shows a text that came from outside, it shows it in quotes and spells what could
not be seen: the quote and the backslash, the line and tab characters and the null character by a
backslash and a letter, every other unprintable character by its code point in braces. A single
character is shown the same way in apostrophes, and then it is the apostrophe and not the quote
that is escaped.
-/

namespace Remit.Text

/-- A code point in lowercase hexadecimal, in braces. -/
def codePointEscape (c : Char) : List Char :=
  ['\\', 'u', '\x7b'] ++ Nat.toDigits 16 c.toNat ++ ['\x7d']

/-- How a character is shown inside quotes of the given kind. -/
def shown (quote c : Char) : List Char :=
  if c = '\x00' then ['\\', '0']
  else if c = '\t' then ['\\', 't']
  else if c = '\r' then ['\\', 'r']
  else if c = '\n' then ['\\', 'n']
  else if c = '\\' then ['\\', '\\']
  else if c = quote then ['\\', quote]
  else if isUnprintable c then codePointEscape c
  else [c]

/-- A text in quotes. -/
def quoted (text : String) : String :=
  String.ofList ('"' :: text.toList.flatMap (shown '"') ++ ['"'])

/-- A single character in apostrophes. -/
def quotedChar (c : Char) : String :=
  String.ofList ('\'' :: shown '\'' c ++ ['\''])

end Remit.Text
