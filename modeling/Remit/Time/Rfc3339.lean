import Remit.Bytes
import Remit.Text.Blank
import Remit.Time.Instant

/-!
# RFC 3339 timestamps

The written form of an instant has the date, the letter `T`, the time of day with as many groups
of three decimal places as it needs, and the offset from UTC. Reading is more lenient: a space may
stand for the `T`, blanks may stand before every number and separator, the offset may be `Z`,
`UTC` or a sign with hours and minutes, and a year may have a sign and more than four digits.
Further decimal places than nine are dropped. A second 60 is a leap second.
-/

namespace Remit.Rfc3339

/-- Why a text is not read as an instant. -/
inductive Error where
  | tooShort
  | badCharacter
  | outOfRange
  | trailingText
  | impossible
  deriving DecidableEq

/-- The wording of an error. -/
def Error.message : Error → String
  | tooShort => "premature end of input"
  | badCharacter => "input contains invalid characters"
  | outOfRange => "input is out of range"
  | trailingText => "trailing input"
  | impossible => "no possible date and time matching input"

/-! ### Reading: parts -/

/-- Numbers are kept below this bound. -/
def numberLimit : Nat := Nat.pow 2 63

/-- Reads one digit or more, but not more than `most`. -/
def digits (most : Nat) (text : List Char) : Except Error (List Char × List Char) :=
  let found := (text.take most).takeWhile Char.isDigit
  match text, found with
  | [], _ => .error .tooShort
  | _, [] => .error .badCharacter
  | _, _ => .ok (found, text.drop found.length)

/-- Reads a natural number of at most `most` digits. -/
def natural (most : Nat) (text : List Char) : Except Error (Nat × List Char) := do
  let (found, rest) ← digits most text
  let value := Nat.ofDigitChars 10 found 0
  if value < numberLimit then .ok (value, rest) else .error .outOfRange

/-- Reads a number of one or two digits behind blanks, which has to lie in the given range. -/
def twoDigits (least most : Nat) (text : List Char) : Except Error (Nat × List Char) := do
  let (value, rest) ← natural 2 (Text.trimStart text)
  if least ≤ value ∧ value ≤ most then .ok (value, rest) else .error .outOfRange

/-- Reads a year behind blanks: four digits at most, or a sign and any number of digits. -/
def year (text : List Char) : Except Error (Int × List Char) := do
  let text := Text.trimStart text
  let (value, rest) ← match text with
    | '-' :: rest => do
      let (value, rest) ← natural rest.length rest
      .ok (-(value : Int), rest)
    | '+' :: rest => do
      let (value, rest) ← natural rest.length rest
      .ok ((value : Int), rest)
    | _ => do
      let (value, rest) ← natural 4 text
      .ok ((value : Int), rest)
  if -2147483648 ≤ value ∧ value < 2147483648 then .ok (value, rest) else .error .outOfRange

/-- Reads a separator behind blanks. -/
def separator (c : Char) (text : List Char) : Except Error (Unit × List Char) :=
  match Text.trimStart text with
  | [] => .error .tooShort
  | d :: rest => if d = c then .ok ((), rest) else .error .badCharacter

/-- Reads decimal places, if a point follows, as nanoseconds. -/
def fraction (text : List Char) : Except Error (Nat × List Char) :=
  match text with
  | '.' :: rest => do
    let (found, rest) ← digits 9 rest
    .ok (Nat.ofDigitChars 10 found 0 * Nat.pow 10 (9 - found.length), rest.dropWhile Char.isDigit)
  | _ => .ok (0, text)

/-- Reads two digits of an offset, the first of them below `limit`. -/
def offsetPair (limit : Nat) (text : List Char) : Except Error (Nat × List Char) :=
  if Bytes.utf8Length text < 2 then .error .tooShort
  else match text with
    | a :: b :: rest =>
      if a.isDigit && b.isDigit then
        if a.toNat - 48 < limit then .ok ((a.toNat - 48) * 10 + (b.toNat - 48), rest)
        else .error .outOfRange
      else .error .badCharacter
    | _ => .error .badCharacter

/-- Reads the offset from UTC, in seconds. -/
def offset (text : List Char) : Except Error (Int × List Char) :=
  match text with
  | 'Z' :: rest | 'z' :: rest => .ok (0, rest)
  | [] => .error .tooShort
  | sign :: rest =>
    if sign = '+' ∨ sign = '-' ∨ sign = '−' then do
      let (hours, rest) ← offsetPair 10 rest
      let (minutes, rest) ← offsetPair 6 (rest.dropWhile fun c => c = ':' || Text.isBlank c)
      let seconds : Int := hours * 3600 + minutes * 60
      .ok (if sign = '+' then seconds else -seconds, rest)
    else .error .badCharacter

/-- Reads an offset that may be written `UTC`. -/
def offsetOrName (text : List Char) : Except Error (Int × List Char) :=
  match text with
  | a :: b :: c :: rest =>
    if Text.asciiLowercase [a, b, c] = ['u', 't', 'c'] then .ok (0, rest) else offset text
  | _ => offset text

/-! ### Reading -/

/-- The years for which there are instants. -/
def yearInRange (year : Int) : Bool := -262143 ≤ year && year ≤ 262142

/-- Reads a text as an instant. -/
def parse (text : String) : Except Error Instant := do
  let (year, rest) ← year text.toList
  let ((), rest) ← separator '-' rest
  let (month, rest) ← twoDigits 1 12 rest
  let ((), rest) ← separator '-' rest
  let (day, rest) ← twoDigits 1 31 rest
  let rest ← match rest with
    | [] => .error .tooShort
    | c :: rest => if c = 'T' ∨ c = 't' ∨ c = ' ' then .ok rest else .error .badCharacter
  let (hour, rest) ← twoDigits 0 23 rest
  let ((), rest) ← separator ':' rest
  let (minute, rest) ← twoDigits 0 59 rest
  let ((), rest) ← separator ':' rest
  let (second, rest) ← twoDigits 0 60 rest
  let (nanoseconds, rest) ← fraction rest
  let (offset, rest) ← offsetOrName (Text.trimStart rest)
  if Text.trimStart rest ≠ [] then .error .trailingText
  let date : Date := ⟨year, month, day⟩
  if !(yearInRange year && date.isValid) then .error .outOfRange
  if offset ≤ -86400 ∨ 86400 ≤ offset then .error .outOfRange
  let (second, nanoseconds) :=
    if second = 60 then (59, nanoseconds + 1000000000) else (second, nanoseconds)
  let seconds := date.toDays * 86400 + (hour * 3600 + minute * 60 + second : Nat) - offset
  if !yearInRange (Date.ofDays (seconds / 86400)).year then .error .impossible
  .ok ⟨seconds, nanoseconds⟩

/-! ### Writing -/

/-- A number with zeros before it up to the given width. -/
def padded (width n : Nat) : List Char :=
  let digits := Nat.toDigits 10 n
  List.replicate (width - digits.length) '0' ++ digits

/-- A year of four digits; with a sign outside the years 0 to 9999. -/
def yearText (year : Int) : List Char :=
  if 0 ≤ year ∧ year ≤ 9999 then padded 4 year.toNat
  else (if year < 0 then '-' else '+') :: padded 4 year.natAbs

/-- No decimal places, or three, six or nine of them. -/
def fractionText (nanoseconds : Nat) : List Char :=
  if nanoseconds = 0 then []
  else if nanoseconds % 1000000 = 0 then '.' :: padded 3 (nanoseconds / 1000000)
  else if nanoseconds % 1000 = 0 then '.' :: padded 6 (nanoseconds / 1000)
  else '.' :: padded 9 nanoseconds

/-- An instant in UTC without its offset. -/
def localText (instant : Instant) : List Char :=
  let date := Date.ofDays (instant.seconds / 86400)
  let time := (instant.seconds % 86400).toNat
  let leap := instant.nanoseconds / 1000000000
  yearText date.year ++ '-' :: padded 2 date.month ++ '-' :: padded 2 date.day ++ 'T' ::
    padded 2 (time / 3600) ++ ':' :: padded 2 (time / 60 % 60) ++ ':' ::
    padded 2 (time % 60 + leap) ++ fractionText (instant.nanoseconds % 1000000000)

/-- An instant in UTC, with the offset written as `+00:00`. -/
def format (instant : Instant) : String :=
  String.ofList (localText instant ++ ['+', '0', '0', ':', '0', '0'])

/-- An instant in UTC, with the offset written as `Z`. -/
def formatZulu (instant : Instant) : String := String.ofList (localText instant ++ ['Z'])

end Remit.Rfc3339
