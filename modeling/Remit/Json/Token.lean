import Remit.Json.Numeral

/-!
# Tokens of JSON text

A text is cut into brackets, separators and scalars; blanks between them are dropped. The first
place where no token fits ends the cutting with the token `bad`.

Two flaws of a scalar do not end the cutting, because they matter only to who reads the scalar: a
number too large for a double, and a string in which half of a surrogate pair is spelled without
the other half. Such a scalar has no value.

## Main statements

* `Token.scanString_length`: what follows a string is shorter than the text it was cut from.
-/

namespace Remit.Json

/-- A value without parts. A number or string may be well written and still stand for nothing. -/
inductive Scalar where
  | null
  | bool (value : Bool)
  | number (value : Option Number)
  | string (text : Option String)
  deriving DecidableEq

/-- A token of JSON text. -/
inductive Token where
  | beginArray
  | endArray
  | beginObject
  | endObject
  | colon
  | comma
  | scalar (value : Scalar)
  /-- Here the text is no token. -/
  | bad
  deriving DecidableEq

namespace Token

/-! ### Strings -/

/-- A character of a string, or half of a surrogate pair spelled by its code. -/
inductive Piece where
  | char (c : Char)
  | surrogate (code : Nat)

/-- The value of a hexadecimal digit. -/
def hexValue? (c : Char) : Option Nat :=
  if c.isDigit then some (c.toNat - 48)
  else if 'a' ≤ c ∧ c ≤ 'f' then some (c.toNat - 87)
  else if 'A' ≤ c ∧ c ≤ 'F' then some (c.toNat - 55)
  else none

/-- The code spelled by four hexadecimal digits. -/
def code? (a b c d : Char) : Option Nat := do
  let a ← hexValue? a
  let b ← hexValue? b
  let c ← hexValue? c
  let d ← hexValue? d
  some (((a * 16 + b) * 16 + c) * 16 + d)

/-- The piece with the given code. -/
def Piece.ofCode (code : Nat) : Piece :=
  if 0xd800 ≤ code ∧ code < 0xe000 then surrogate code else char (Char.ofNat code)

/-- What the letter behind a backslash stands for. -/
def escaped? (c : Char) : Option Char :=
  match c with
  | '"' => some '"'
  | '\\' => some '\\'
  | '/' => some '/'
  | 'b' => some '\x08'
  | 'f' => some '\x0c'
  | 'n' => some '\n'
  | 'r' => some '\r'
  | 't' => some '\t'
  | _ => none

/-- Cuts the text behind an opening quote at the closing one. -/
def scanString : List Char → Option (List Piece × List Char)
  | [] => none
  | '"' :: rest => some ([], rest)
  | '\\' :: 'u' :: a :: b :: c :: d :: rest =>
    match code? a b c d with
    | none => none
    | some code => (scanString rest).map fun (pieces, rest) => (.ofCode code :: pieces, rest)
  | '\\' :: c :: rest =>
    match escaped? c with
    | none => none
    | some c => (scanString rest).map fun (pieces, rest) => (.char c :: pieces, rest)
  | c :: rest =>
    if c.toNat < 32 ∨ c = '\\' then none
    else (scanString rest).map fun (pieces, rest) => (.char c :: pieces, rest)

theorem scanString_length {text rest : List Char} {pieces : List Piece}
    (h : scanString text = some (pieces, rest)) : rest.length < text.length := by
  induction text using scanString.induct generalizing pieces with
  | case1 => simp [scanString] at h
  | case2 rest' => simp [scanString] at h; simp [h.2]
  | case3 a b c d rest' hc => simp [scanString, hc] at h
  | case4 a b c d rest' code hc ih =>
    simp only [scanString, hc, Option.map_eq_some_iff] at h
    obtain ⟨⟨p, r⟩, hr, he⟩ := h
    simp only [Prod.mk.injEq] at he
    have := ih (he.2 ▸ hr)
    simp only [List.length_cons]; omega
  | case5 c rest' hne hc => rw [scanString] at h <;> simp_all
  | case6 c rest' hne c' hc ih =>
    rw [scanString] at h
    · simp only [hc, Option.map_eq_some_iff] at h
      obtain ⟨⟨p, r⟩, hr, he⟩ := h
      simp only [Prod.mk.injEq] at he
      have := ih (he.2 ▸ hr)
      simp only [List.length_cons]; omega
    · exact hne
  | case7 c rest' h1 h2 h3 hc => rw [scanString] at h <;> simp_all
  | case8 c rest' h1 h2 h3 hc ih =>
    rw [scanString] at h
    · simp only [hc, ite_false, Option.map_eq_some_iff] at h
      obtain ⟨⟨p, r⟩, hr, he⟩ := h
      simp only [Prod.mk.injEq] at he
      have := ih (he.2 ▸ hr)
      simp only [List.length_cons]; omega
    all_goals assumption

/-- The characters that the pieces spell, if all surrogates come in pairs. -/
def joinPieces : List Piece → Option (List Char)
  | [] => some []
  | .char c :: rest => (joinPieces rest).map (c :: ·)
  | .surrogate high :: .surrogate low :: rest =>
    if high < 0xdc00 ∧ 0xdc00 ≤ low then
      (joinPieces rest).map
        (Char.ofNat (0x10000 + (high - 0xd800) * 0x400 + (low - 0xdc00)) :: ·)
    else none
  | .surrogate _ :: _ => none

/-! ### Cutting a text -/

/-- The text behind the given word, if it starts with it. -/
def behind? (word text : List Char) : Option (List Char) :=
  match word, text with
  | [], rest => some rest
  | _ :: _, [] => none
  | w :: word, c :: rest => if w = c then behind? word rest else none

theorem behind?_length {word text rest : List Char} (h : behind? word text = some rest) :
    rest.length ≤ text.length := by
  induction word generalizing text with
  | nil => simp [behind?] at h; simp [h]
  | cons w word ih =>
    cases text with
    | nil => simp [behind?] at h
    | cons c tail =>
      simp only [behind?] at h
      split at h
      · have := ih h; simp only [List.length_cons]; omega
      · cases h

/-- The blanks that may stand between tokens. -/
def isBlank (c : Char) : Bool := c = ' ' || c = '\n' || c = '\t' || c = '\r'

/-- Splits off the scalar that a nonempty text starts with. -/
def scanScalar? (c : Char) (rest : List Char) : Option (Scalar × List Char) :=
  if c = '"' then
    (scanString rest).map fun (pieces, rest) =>
      (.string ((joinPieces pieces).map String.ofList), rest)
  else if c = 'n' then (behind? ['u', 'l', 'l'] rest).map (.null, ·)
  else if c = 't' then (behind? ['r', 'u', 'e'] rest).map (.bool true, ·)
  else if c = 'f' then (behind? ['a', 'l', 's', 'e'] rest).map (.bool false, ·)
  else (Numeral.scan (c :: rest)).map fun (numeral, rest) => (.number numeral.value?, rest)

theorem scanScalar?_length {c : Char} {text rest : List Char} {value : Scalar}
    (h : scanScalar? c text = some (value, rest)) : rest.length ≤ text.length := by
  unfold scanScalar? at h
  split at h
  · simp only [Option.map_eq_some_iff] at h
    obtain ⟨⟨p, r⟩, hr, he⟩ := h
    simp only [Prod.mk.injEq] at he
    have := scanString_length hr
    rw [← he.2]; omega
  split at h
  · simp only [Option.map_eq_some_iff, Prod.mk.injEq] at h
    obtain ⟨r, hr, -, he⟩ := h
    exact he ▸ behind?_length hr
  split at h
  · simp only [Option.map_eq_some_iff, Prod.mk.injEq] at h
    obtain ⟨r, hr, -, he⟩ := h
    exact he ▸ behind?_length hr
  split at h
  · simp only [Option.map_eq_some_iff, Prod.mk.injEq] at h
    obtain ⟨r, hr, -, he⟩ := h
    exact he ▸ behind?_length hr
  · simp only [Option.map_eq_some_iff] at h
    obtain ⟨⟨n, r⟩, hr, he⟩ := h
    simp only [Prod.mk.injEq] at he
    have := Numeral.scan_length hr
    simp only [List.length_cons] at this
    rw [← he.2]; omega

/-- Brackets and separators. -/
def punctuation? (c : Char) : Option Token :=
  match c with
  | '[' => some beginArray
  | ']' => some endArray
  | '{' => some beginObject
  | '}' => some endObject
  | ':' => some colon
  | ',' => some comma
  | _ => none

/-- The tokens of a text, up to the first place where none fits. -/
def scan : List Char → List Token
  | [] => []
  | c :: rest =>
    if isBlank c then scan rest
    else match punctuation? c with
      | some token => token :: scan rest
      | none =>
        match h : scanScalar? c rest with
        | none => [bad]
        | some (value, rest') =>
          have := scanScalar?_length h
          scalar value :: scan rest'
termination_by text => text.length
decreasing_by all_goals (simp only [List.length_cons]; omega)

end Token

end Remit.Json
