import Remit.Json.Decoder

/-!
# Where a text is refused

What is said about a text that is not decoded ends in the place where the reader stopped: its line,
and how many bytes of the line were read.

A reader goes from left to right and stops at the first flaw. So the token at which it stops is the
first one with which the flaw is there, whatever may follow: the tokens up to it, put together to a
document, are refused for the reason for which the whole text is (`Decoder.culprit?`). How much of
the text has been read by then depends on the reason (`Lexeme.unread`). Told apart are the reasons
for which a record of texts is refused: a value of the wrong kind, and a member that is there twice.

A text that is not JSON is refused in words that depend on what is wrong with it, at the token that
does not fit or inside it. Neither is described here, only where the tokens stand (`places`).

## Main statements

* `map_token_lexemes`: the tokens in a text, with the text around them, are its tokens.
-/

namespace Remit.Json

/-! ### Places -/

/-- A place in a text: its line, the first one being 1, and how many bytes of the line stand before
it. -/
structure Place where
  line : Nat
  column : Nat
  deriving DecidableEq

namespace Place

/-- The start of a text. -/
def start : Place := ⟨1, 0⟩

/-- The place behind one more character. -/
def next (place : Place) (c : Char) : Place :=
  if c = '\n' then ⟨place.line + 1, 0⟩ else ⟨place.line, place.column + c.utf8Size⟩

/-- The place behind a text. -/
def behind (text : List Char) : Place := text.foldl next start

/-- How a place is named. -/
def text (place : Place) : String := s!"line {place.line} column {place.column}"

end Place

/-! ### Tokens in a text -/

/-- A token with the text around it. -/
structure Lexeme where
  token : Token
  /-- The text that starts with the token. -/
  start : List Char
  /-- The text behind the token. -/
  rest : List Char

open Token in
/-- The tokens in a text. -/
def lexemes : List Char → List Lexeme
  | [] => []
  | c :: rest =>
    if isBlank c then lexemes rest
    else match punctuation? c with
      | some token => ⟨token, c :: rest, rest⟩ :: lexemes rest
      | none =>
        match h : scanScalar? c rest with
        | none => [⟨bad, c :: rest, rest⟩]
        | some (value, rest') =>
          have := scanScalar?_length h
          ⟨scalar value, c :: rest, rest'⟩ :: lexemes rest'
termination_by text => text.length
decreasing_by all_goals (simp only [List.length_cons]; omega)

theorem map_token_lexemes (text : List Char) :
    (lexemes text).map Lexeme.token = Token.scan text := by
  fun_induction lexemes text with
  | case1 => rw [Token.scan]; rfl
  | case2 c rest hblank ih => rw [Token.scan, if_pos hblank, ih]
  | case3 c rest hblank token htoken ih =>
    rw [Token.scan, if_neg hblank, htoken, List.map_cons, ih]
  | case4 c rest hblank hnone hscalar =>
    rw [Token.scan, if_neg hblank, hnone]
    dsimp only
    split
    · rfl
    · rename_i hsome
      rw [hscalar] at hsome
      cases hsome
  | case5 c rest hblank hnone value rest' hscalar _ ih =>
    rw [Token.scan, if_neg hblank, hnone]
    dsimp only
    split
    · rename_i hfail
      rw [hscalar] at hfail
      cases hfail
    · rename_i hsome
      rw [hscalar] at hsome
      cases hsome
      rw [List.map_cons, ih]

/-- The places of the tokens in a text: where each starts, and where it ends. -/
def places (text : List Char) : List (Place × Place) :=
  (lexemes text).map fun lexeme =>
    (.behind (text.take (text.length - lexeme.start.length)),
      .behind (text.take (text.length - lexeme.rest.length)))

/-- The text behind the end of an object, if the object ends here. -/
def behindEnd (text : List Char) : List Char :=
  match text.dropWhile Token.isBlank with
  | '}' :: rest => rest
  | rest => rest

/-- The text that is not read yet when the reader stops at the token for the given reason. An array
or object of the wrong kind is not entered. Behind the name of a member that is there twice the
reader still looks for the end of the object. -/
def Lexeme.unread (lexeme : Lexeme) : DecodeError → List Char
  | .wrongType .sequence _ => lexeme.start
  | .wrongType .map _ => lexeme.start
  | .duplicateField _ => behindEnd lexeme.rest
  | _ => lexeme.rest

/-! ### The place of an error -/

namespace Decoder

variable {α : Type}

/-- A text with these tokens, and nothing behind them, is refused for the given reason. -/
def failsWith (decode : Decoder α) (cause : DecodeError) (tokens : List Token) : Bool :=
  match decode (.text levelLimit) (Document.build .value [] tokens).1 with
  | .ok _ => false
  | .error e => e = cause

/-- The first token with which the text is refused for the given reason, given the tokens before. -/
def culprit? (decode : Decoder α) (cause : DecodeError) : List Token → List Lexeme → Option Lexeme
  | _, [] => none
  | before, lexeme :: rest =>
    let read := before ++ [lexeme.token]
    if decode.failsWith cause read then some lexeme else decode.culprit? cause read rest

/-- Where a text is refused for the given reason. -/
def placeOf (decode : Decoder α) (cause : DecodeError) (text : List Char) : Place :=
  match decode.culprit? cause [] (lexemes text) with
  | some lexeme => .behind (text.take (text.length - (lexeme.unread cause).length))
  | none => .behind text

/-- What is said about a text that is refused for the given reason: the wording of the reason, and
the place, unless the text is not JSON. -/
def report (decode : Decoder α) (text : String) (cause : DecodeError) : String :=
  match cause with
  | .notJson => cause.message
  | _ => s!"{cause.message} at {(decode.placeOf cause text.toList).text}"

end Decoder

end Remit.Json
