import Remit.Bytes
import Remit.Text.Quoted

/-!
# Hexadecimal text

Bytes are written as two lowercase digits each, with nothing before them. Reading is lenient in
two ways only: one leading `0x` or `0X` is dropped, and digits may be of either case. An odd
number of UTF-8 bytes cannot describe whole bytes and is refused before any digit is looked at;
after that the first character that is no digit is reported, by the byte it starts with and its
position behind the mark.

## Main statements

* `Hex.decodeDigits_encodeDigits`: reading inverts writing, digit by digit.
* `Hex.decode_encode`: the same for texts.
-/

namespace Remit.Hex

/-! ### Digits -/

/-- The value of a hexadecimal digit of either case. -/
def digitValue? (c : Char) : Option UInt8 :=
  if '0' ≤ c ∧ c ≤ '9' then some (UInt8.ofNat (c.toNat - 48))
  else if 'a' ≤ c ∧ c ≤ 'f' then some (UInt8.ofNat (c.toNat - 87))
  else if 'A' ≤ c ∧ c ≤ 'F' then some (UInt8.ofNat (c.toNat - 55))
  else none

/-- The lowercase digit for a value below sixteen. -/
def digit (value : UInt8) : Char :=
  if value < 10 then Char.ofNat (48 + value.toNat) else Char.ofNat (87 + value.toNat)

/-- The two digits of a byte, high half first. -/
def digitPair (byte : UInt8) : List Char := [digit (byte >>> 4), digit (byte &&& 15)]

theorem digitValue?_high (byte : UInt8) : digitValue? (digit (byte >>> 4)) = some (byte >>> 4) :=
  forall_byte (p := fun b => digitValue? (digit (b >>> 4)) = some (b >>> 4)) (by decide +kernel)
    byte

theorem digitValue?_low (byte : UInt8) : digitValue? (digit (byte &&& 15)) = some (byte &&& 15) :=
  forall_byte (p := fun b => digitValue? (digit (b &&& 15)) = some (b &&& 15)) (by decide +kernel)
    byte

theorem join_halves (byte : UInt8) : (byte >>> 4) <<< 4 ||| byte &&& 15 = byte :=
  forall_byte (p := fun b => (b >>> 4) <<< 4 ||| b &&& 15 = b) (by decide +kernel) byte

/-! ### Writing -/

/-- The digits of a byte string. -/
def encodeDigits (bytes : Bytes) : List Char := bytes.flatMap digitPair

/-- A byte string as lowercase text, two digits a byte. -/
def encode (bytes : Bytes) : String := String.ofList (encodeDigits bytes)

/-! ### Reading -/

/-- Why a text is not read as bytes. -/
inductive Error where
  /-- The text behind the mark has an odd number of bytes. -/
  | oddLength (length : Nat)
  /-- A character that is no digit, given by its first byte. -/
  | notDigit (byte : UInt8) (position : Nat)
  /-- The bytes are not as many as asked for. -/
  | wrongLength (expected actual : Nat)
  deriving DecidableEq

/-- The wording of an error. The offending byte is shown as the character of that number. -/
def Error.message : Error → String
  | oddLength length => s!"hex string has odd length {length}"
  | notDigit byte position =>
    s!"invalid hex: Invalid character {Text.quotedChar (Char.ofNat byte.toNat)} " ++
      s!"at position {position}"
  | wrongLength expected actual => s!"expected {expected} bytes, got {actual}"

/-- The text without one leading `0x` or `0X`. -/
def dropMark : List Char → List Char
  | '0' :: 'x' :: rest => rest
  | '0' :: 'X' :: rest => rest
  | text => text

/-- The first byte of a character's UTF-8 form. -/
def leadByte (c : Char) : UInt8 := (String.utf8EncodeChar c).headD 0

/-- Reads two digits a byte; `position` is where the text starts in the whole. -/
def decodeDigits : (position : Nat) → List Char → Except Error Bytes
  | _, [] => .ok []
  | position, [c] =>
    match digitValue? c with
    | none => .error (.notDigit (leadByte c) position)
    | some _ => .error (.oddLength 1)
  | position, c :: d :: rest =>
    match digitValue? c, digitValue? d with
    | none, _ => .error (.notDigit (leadByte c) position)
    | some _, none => .error (.notDigit (leadByte d) (position + 1))
    | some high, some low =>
      match decodeDigits (position + 2) rest with
      | .ok bytes => .ok ((high <<< 4 ||| low) :: bytes)
      | .error e => .error e

/-- Reads a text as bytes. -/
def decode (text : String) : Except Error Bytes :=
  let digits := dropMark text.toList
  if Bytes.utf8Length digits % 2 ≠ 0 then .error (.oddLength (Bytes.utf8Length digits))
  else decodeDigits 0 digits

/-- Reads a text as exactly `n` bytes. -/
def decodeExactly (n : Nat) (text : String) : Except Error (FixedBytes n) := do
  let bytes ← decode text
  match Bytes.ofLength? n bytes with
  | some fixed => .ok fixed
  | none => .error (.wrongLength n bytes.length)

/-- The text is hexadecimal. -/
def isValid (text : String) : Bool := (decode text).isOk

/-! ### Reading inverts writing -/

theorem decodeDigits_encodeDigits (bytes : Bytes) (position : Nat) :
    decodeDigits position (encodeDigits bytes) = .ok bytes := by
  induction bytes generalizing position with
  | nil => rfl
  | cons byte rest ih =>
    have h : encodeDigits (byte :: rest) =
        digit (byte >>> 4) :: digit (byte &&& 15) :: encodeDigits rest := rfl
    simp only [h, decodeDigits, digitValue?_high, digitValue?_low, ih, join_halves]

theorem utf8Size_digit_high (byte : UInt8) : (digit (byte >>> 4)).utf8Size = 1 :=
  forall_byte (p := fun b => (digit (b >>> 4)).utf8Size = 1) (by decide +kernel) byte

theorem utf8Size_digit_low (byte : UInt8) : (digit (byte &&& 15)).utf8Size = 1 :=
  forall_byte (p := fun b => (digit (b &&& 15)).utf8Size = 1) (by decide +kernel) byte

theorem utf8Length_encodeDigits (bytes : Bytes) :
    Bytes.utf8Length (encodeDigits bytes) = 2 * bytes.length := by
  induction bytes with
  | nil => rfl
  | cons byte rest ih =>
    have h : encodeDigits (byte :: rest) =
        digit (byte >>> 4) :: digit (byte &&& 15) :: encodeDigits rest := rfl
    simp only [h, Bytes.utf8Length, utf8Size_digit_high, utf8Size_digit_low, ih,
      List.length_cons]
    omega

theorem digit_low_ne_mark (byte : UInt8) :
    digit (byte &&& 15) ≠ 'x' ∧ digit (byte &&& 15) ≠ 'X' :=
  forall_byte (p := fun b => digit (b &&& 15) ≠ 'x' ∧ digit (b &&& 15) ≠ 'X') (by decide +kernel)
    byte

theorem dropMark_encodeDigits (bytes : Bytes) :
    dropMark (encodeDigits bytes) = encodeDigits bytes := by
  cases bytes with
  | nil => rfl
  | cons byte rest =>
    have h : encodeDigits (byte :: rest) =
        digit (byte >>> 4) :: digit (byte &&& 15) :: encodeDigits rest := rfl
    have hx := digit_low_ne_mark byte
    rw [h]
    unfold dropMark
    split
    · rename_i heq; simp only [List.cons.injEq] at heq; exact absurd heq.2.1 hx.1
    · rename_i heq; simp only [List.cons.injEq] at heq; exact absurd heq.2.1 hx.2
    · rfl

@[simp] theorem toList_encode (bytes : Bytes) : (encode bytes).toList = encodeDigits bytes := by
  simp [encode]

theorem decode_encode (bytes : Bytes) : decode (encode bytes) = .ok bytes := by
  have h : Bytes.utf8Length (encodeDigits bytes) % 2 = 0 := by
    rw [utf8Length_encodeDigits]; omega
  simp [decode, dropMark_encodeDigits, h, decodeDigits_encodeDigits]

theorem decodeExactly_encode {n : Nat} (bytes : FixedBytes n) :
    decodeExactly n (encode bytes.toList) = .ok bytes := by
  simp [decodeExactly, decode_encode, bind, Except.bind]

end Remit.Hex
