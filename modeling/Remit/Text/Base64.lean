import Remit.Bytes

/-!
# Base64 text

The standard alphabet with `=` as padding, which is required and has to be canonical: the last
group of four ends in as many `=` as bytes are missing from it, and the bits that its last symbol
holds beyond the bytes are zero. An error names the first offending symbol with its offset.
-/

namespace Remit.Base64

/-- The symbol for a value below 64. -/
def symbol (value : UInt8) : UInt8 :=
  if value < 26 then 65 + value
  else if value < 52 then 71 + value
  else if value < 62 then value - 4
  else if value = 62 then 43 else 47

/-- The value of a symbol. -/
def value? (byte : UInt8) : Option UInt8 :=
  if 65 ≤ byte ∧ byte ≤ 90 then some (byte - 65)
  else if 97 ≤ byte ∧ byte ≤ 122 then some (byte - 71)
  else if 48 ≤ byte ∧ byte ≤ 57 then some (byte + 4)
  else if byte = 43 then some 62
  else if byte = 47 then some 63
  else none

/-- The padding symbol `=`. -/
def pad : UInt8 := 61

/-! ### Writing -/

/-- The symbols of a byte string, three bytes to a group of four. -/
def encodeSymbols : Bytes → Bytes
  | [] => []
  | [a] => [symbol (a >>> 2), symbol ((a &&& 3) <<< 4), pad, pad]
  | [a, b] =>
    [symbol (a >>> 2), symbol ((a &&& 3) <<< 4 ||| b >>> 4), symbol ((b &&& 15) <<< 2), pad]
  | a :: b :: c :: rest =>
    symbol (a >>> 2) :: symbol ((a &&& 3) <<< 4 ||| b >>> 4) ::
      symbol ((b &&& 15) <<< 2 ||| c >>> 6) :: symbol (c &&& 63) :: encodeSymbols rest

/-- A byte string as padded text. -/
def encode (bytes : Bytes) : String :=
  String.ofList ((encodeSymbols bytes).map fun byte => Char.ofNat byte.toNat)

/-! ### Reading -/

/-- Why a text is not read as bytes. -/
inductive Error where
  /-- A byte that is no symbol, or padding where none may be. -/
  | badSymbol (byte : UInt8) (offset : Nat)
  /-- A last group of a single symbol. -/
  | badLength (length : Nat)
  /-- A last symbol with bits beyond the last byte. -/
  | badLastSymbol (byte : UInt8) (offset : Nat)
  /-- Padding that is missing or not as long as it has to be. -/
  | badPadding
  deriving DecidableEq

/-- The wording of an error. -/
def Error.message : Error → String
  | badSymbol byte offset => s!"Invalid symbol {byte.toNat}, offset {offset}."
  | badLength length => s!"Invalid input length: {length}"
  | badLastSymbol byte offset => s!"Invalid last symbol {byte.toNat}, offset {offset}."
  | badPadding => "Invalid padding"

/-- The three bytes of a full group. -/
def groupBytes (a b c d : UInt8) : Bytes :=
  [a <<< 2 ||| b >>> 4, b <<< 4 ||| c >>> 2, c <<< 6 ||| d]

/-- What has been read of the last group. -/
structure LastGroup where
  /-- The values of its symbols, in order. -/
  values : List UInt8
  /-- Its last symbol. -/
  last : UInt8
  /-- The offset in the group of its first padding symbol, and how many there are. -/
  padding : Option (Nat × Nat)

/-- Reads the symbols of the last group, which starts at `start`; `index` counts within it. -/
def readLastGroup (start : Nat) : (index : Nat) → LastGroup → Bytes → Except Error LastGroup
  | _, group, [] => .ok group
  | index, group, byte :: rest =>
    if byte = pad then
      if index < 2 then .error (.badSymbol byte (start + index))
      else
        let padding := match group.padding with
          | none => (index, 1)
          | some (first, count) => (first, count + 1)
        readLastGroup start (index + 1) { group with padding := some padding } rest
    else
      match group.padding with
      | some (first, _) => .error (.badSymbol pad (start + first))
      | none =>
        match value? byte with
        | none => .error (.badSymbol byte (start + index))
        | some value =>
          readLastGroup start (index + 1)
            { group with values := group.values ++ [value], last := byte } rest

/-- The bytes of the last group, which holds at most four symbols and starts at `start`. -/
def decodeLastGroup (start : Nat) (symbols : Bytes) : Except Error Bytes := do
  let group ← readLastGroup start 0 ⟨[], 0, none⟩ symbols
  let count := group.values.length
  if count < 2 then .error (.badLength (start + count))
  else if ((group.padding.map Prod.snd).getD 0 + count) % 4 ≠ 0 then .error .badPadding
  else
    let overflow := Except.error (Error.badLastSymbol group.last (start + count - 1))
    match group.values with
    | [a, b] => if b &&& 15 ≠ 0 then overflow else .ok [a <<< 2 ||| b >>> 4]
    | [a, b, c] =>
      if c &&& 3 ≠ 0 then overflow else .ok [a <<< 2 ||| b >>> 4, b <<< 4 ||| c >>> 2]
    | [a, b, c, d] => .ok (groupBytes a b c d)
    | _ => .ok []

/-- Reads the groups before the last one, then the last one. -/
def decodeGroups : (start : Nat) → Bytes → Except Error Bytes
  | start, a :: b :: c :: d :: e :: rest =>
    match value? a, value? b, value? c, value? d with
    | some va, some vb, some vc, some vd =>
      match decodeGroups (start + 4) (e :: rest) with
      | .ok bytes => .ok (groupBytes va vb vc vd ++ bytes)
      | .error error => .error error
    | none, _, _, _ => .error (.badSymbol a start)
    | _, none, _, _ => .error (.badSymbol b (start + 1))
    | _, _, none, _ => .error (.badSymbol c (start + 2))
    | _, _, _, none => .error (.badSymbol d (start + 3))
  | start, symbols => decodeLastGroup start symbols

/-- Reads a byte string of symbols. A single byte behind the last full group is looked at first,
so that a stray line end is reported where it is. -/
def decodeSymbols (symbols : Bytes) : Except Error Bytes :=
  match symbols with
  | [] => .ok []
  | _ =>
    match if symbols.length % 4 = 1 then symbols.getLast? else none with
    | some last =>
      if last ≠ pad ∧ value? last = none then .error (.badSymbol last (symbols.length - 1))
      else decodeGroups 0 symbols
    | none => decodeGroups 0 symbols

/-- Reads a text as bytes. -/
def decode (text : String) : Except Error Bytes := decodeSymbols (Bytes.ofText text)

end Remit.Base64
