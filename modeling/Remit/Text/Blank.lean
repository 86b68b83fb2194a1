/-!
# Blank characters

The characters with the Unicode property `White_Space`, and what trimming them from a text leaves.
-/

namespace Remit.Text

/-- A character with the Unicode property `White_Space`. -/
def isBlank (c : Char) : Bool :=
  let n := c.toNat
  (9 ≤ n && n ≤ 13) || n == 0x20 || n == 0x85 || n == 0xa0 || n == 0x1680 ||
    (0x2000 ≤ n && n ≤ 0x200a) || n == 0x2028 || n == 0x2029 || n == 0x202f || n == 0x205f ||
    n == 0x3000

/-- The text without the blanks it starts with. -/
def trimStart (text : List Char) : List Char := text.dropWhile isBlank

/-- The text without the blanks it starts or ends with. -/
def trim (text : List Char) : List Char := ((trimStart text).reverse.dropWhile isBlank).reverse

/-- The text with the letters `A` to `Z` in lowercase; no other character changes. -/
def asciiLowercase (text : List Char) : List Char := text.map Char.toLower

end Remit.Text
