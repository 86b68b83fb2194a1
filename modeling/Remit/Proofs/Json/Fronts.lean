import Mathlib.Data.List.TakeWhile
import Remit.Json.Place
import Remit.Proofs.Json.Printing
import Remit.Proofs.Json.Unclosed

/-!
# Fronts of texts

Two texts that begin alike are read alike as far as they do. The front of a text leads to a value
(`LeadsTo`) if it stops where the value of a member is due, in an object that is all of the text.

* `scanScalar?_append`: a scalar with something behind it is cut off the same if more follows;
* `LeadsTo.lexemes_append`: so are the tokens of a front;
* `LeadsTo.build_append`: and the rest of the text goes on where the front has left off;
* `build_of_holds`: whatever follows, a member that was read stays where it is.
-/

namespace Remit.Json

variable {text rest : List Char}

/-! ### Scalars with more text behind them -/

namespace Numeral

theorem scanDigits?_append_of_ne_nil {digits : List Char}
    (h : scanDigits? text = some (digits, rest)) (hrest : rest ≠ []) (more : List Char) :
    scanDigits? (text ++ more) = some (digits, rest ++ more) := by
  have htext := List.takeWhile_append_dropWhile (p := Char.isDigit) (l := text)
  unfold scanDigits? at h
  split at h
  · cases h
  rename_i hne
  cases h
  have hmore : text ++ more =
      text.takeWhile Char.isDigit ++ (text.dropWhile Char.isDigit ++ more) := by
    rw [← List.append_assoc, htext]
  rw [hmore]
  -- The character at which the digits end is there already.
  refine scanDigits?_append hne (fun c hc => List.mem_takeWhile_imp hc) fun c hc => ?_
  rw [List.head?_append_of_ne_nil _ hrest] at hc
  have hhead := List.head?_dropWhile_not Char.isDigit text
  rw [hc] at hhead
  simpa using hhead

theorem scanFraction?_append_of_ne_nil {digits : List Char}
    (h : scanFraction? text = some (digits, rest)) (hrest : rest ≠ []) (more : List Char) :
    scanFraction? (text ++ more) = some (digits, rest ++ more) := by
  unfold scanFraction? at h
  split at h
  · exact scanDigits?_append_of_ne_nil h hrest more
  · rename_i hpoint
    cases h
    obtain ⟨c, tail, rfl⟩ := List.exists_cons_of_ne_nil hrest
    unfold scanFraction?
    split
    · rename_i heq
      exact absurd (by rw [(List.cons.inj heq).1]) (hpoint tail)
    · rfl

theorem scanExponent?_unsigned {c d : Char} (hc : c = 'e' ∨ c = 'E') (hplus : d ≠ '+')
    (hminus : d ≠ '-') (tail : List Char) :
    scanExponent? (c :: d :: tail) =
      (scanDigits? (d :: tail)).map fun (digits, rest) => (some (false, digits), rest) := by
  unfold scanExponent?
  simp only [if_pos hc]
  split
  · rename_i heq
    exact absurd (List.cons.inj heq).1 hplus
  · rename_i heq
    exact absurd (List.cons.inj heq).1 hminus
  · rfl

theorem scanExponent?_append_of_ne_nil {exponent : Option (Bool × List Char)}
    (h : scanExponent? text = some (exponent, rest)) (hrest : rest ≠ []) (more : List Char) :
    scanExponent? (text ++ more) = some (exponent, rest ++ more) := by
  have hdigits (isNegative : Bool) (tail : List Char)
      (h : ((scanDigits? tail).map fun (digits, rest) => (some (isNegative, digits), rest)) =
        some (exponent, rest)) :
      ((scanDigits? (tail ++ more)).map fun (digits, rest) =>
        (some (isNegative, digits), rest)) = some (exponent, rest ++ more) := by
    simp only [Option.map_eq_some_iff, Prod.mk.injEq] at h ⊢
    obtain ⟨⟨digits, _⟩, hscan, rfl, rfl⟩ := h
    exact ⟨_, scanDigits?_append_of_ne_nil hscan hrest more, rfl, rfl⟩
  match text with
  | [] =>
    cases h
    exact absurd rfl hrest
  | c :: tail =>
    by_cases hc : c = 'e' ∨ c = 'E'
    · match tail with
      | [] =>
        unfold scanExponent? at h
        simp only [if_pos hc] at h
        cases h
      | d :: tail =>
        -- The sign, if there is one, is the same in both texts.
        by_cases hplus : d = '+'
        · subst hplus
          unfold scanExponent? at h ⊢
          simp only [List.cons_append, if_pos hc] at h ⊢
          exact hdigits false tail h
        by_cases hminus : d = '-'
        · subst hminus
          unfold scanExponent? at h ⊢
          simp only [List.cons_append, if_pos hc] at h ⊢
          exact hdigits true tail h
        rw [scanExponent?_unsigned hc hplus hminus] at h
        rw [List.cons_append, List.cons_append, scanExponent?_unsigned hc hplus hminus]
        exact hdigits false (d :: tail) h
    · unfold scanExponent? at h ⊢
      simp only [List.cons_append, if_neg hc] at h ⊢
      cases h
      rfl

/-- Splits off a number behind its sign. -/
def scanUnsigned (isNegative : Bool) (text : List Char) : Option (Numeral × List Char) :=
  match scanDigits? text with
  | none => none
  | some (whole, rest) =>
    if whole.head? = some '0' ∧ whole.length ≠ 1 then none
    else match scanFraction? rest with
      | none => none
      | some (fraction, rest) =>
        match scanExponent? rest with
        | none => none
        | some (exponent, rest) => some (⟨isNegative, whole, fraction, exponent⟩, rest)

theorem scan_of_ne_minus {c : Char} (hc : c ≠ '-') (text : List Char) :
    scan (c :: text) = scanUnsigned false (c :: text) := by
  unfold scan
  split
  rename_i isNegative tail hsign
  split at hsign
  · rename_i heq
    exact absurd (List.cons.inj heq).1 hc
  · cases hsign
    rfl

theorem scanUnsigned_append_of_ne_nil {isNegative : Bool} {numeral : Numeral}
    (h : scanUnsigned isNegative text = some (numeral, rest)) (hrest : rest ≠ [])
    (more : List Char) : scanUnsigned isNegative (text ++ more) = some (numeral, rest ++ more) := by
  unfold scanUnsigned at h
  split at h
  · cases h
  rename_i whole afterWhole hwhole
  split at h
  · cases h
  rename_i hzero
  split at h
  · cases h
  rename_i fraction afterFraction hfraction
  split at h
  · cases h
  rename_i exponent afterExponent hexponent
  cases h
  -- What is left at the end was left after each part.
  have hfractionRest : afterFraction ≠ [] := by
    rintro rfl
    exact hrest (List.suffix_nil.1 (scanExponent?_suffix hexponent))
  have hwholeRest : afterWhole ≠ [] := by
    rintro rfl
    exact hfractionRest (List.suffix_nil.1 (scanFraction?_suffix hfraction))
  unfold scanUnsigned
  simp only [scanDigits?_append_of_ne_nil hwhole hwholeRest, if_neg hzero,
    scanFraction?_append_of_ne_nil hfraction hfractionRest,
    scanExponent?_append_of_ne_nil hexponent hrest]

theorem scan_append_of_ne_nil {numeral : Numeral} (h : scan text = some (numeral, rest))
    (hrest : rest ≠ []) (more : List Char) :
    scan (text ++ more) = some (numeral, rest ++ more) := by
  cases text with
  | nil => cases h
  | cons c tail =>
    by_cases hc : c = '-'
    · subst hc
      exact scanUnsigned_append_of_ne_nil h hrest more
    · rw [scan_of_ne_minus hc] at h
      rw [List.cons_append, scan_of_ne_minus hc]
      exact scanUnsigned_append_of_ne_nil h hrest more

end Numeral

namespace Token

theorem scanString_append {pieces : List Piece} (h : scanString text = some (pieces, rest))
    (more : List Char) : scanString (text ++ more) = some (pieces, rest ++ more) := by
  fun_induction scanString text generalizing pieces rest with
  | case1 => cases h
  | case2 => cases h; rfl
  | case3 => cases h
  | case4 a b c d tail code hcode ih =>
    simp only [Option.map_eq_some_iff, Prod.mk.injEq] at h
    obtain ⟨⟨_, r⟩, hr, rfl, rfl⟩ := h
    simp only [List.cons_append]
    rw [scanString, hcode]
    dsimp only
    rw [ih hr]
    rfl
  | case5 => cases h
  | case6 c tail hne c' hc ih =>
    simp only [Option.map_eq_some_iff, Prod.mk.injEq] at h
    obtain ⟨⟨_, r⟩, hr, rfl, rfl⟩ := h
    simp only [List.cons_append]
    rw [scanString, hc]
    · dsimp only
      rw [ih hr]
      rfl
    · -- The letter that starts a code does not stand for a character itself.
      rintro a b d e tail' rfl -
      cases hc
  | case7 => cases h
  | case8 c tail hquote hcode hslash hc ih =>
    simp only [Option.map_eq_some_iff, Prod.mk.injEq] at h
    obtain ⟨⟨_, r⟩, hr, rfl, rfl⟩ := h
    simp only [List.cons_append]
    rw [scanString, if_neg hc]
    · rw [ih hr]
      rfl
    · exact hquote
    all_goals
      rw [not_or] at hc
      intros
      exact hc.2 ‹_›

theorem behind?_append {word : List Char} (h : behind? word text = some rest)
    (more : List Char) : behind? word (text ++ more) = some (rest ++ more) := by
  fun_induction behind? word text with
  | case1 => cases h; rw [behind?]
  | case2 => cases h
  | case3 w tail rest ih =>
    rw [List.cons_append, behind?, if_pos rfl]
    exact ih h
  | case4 => cases h

/-- A string is closed by its last quote. -/
theorem scanScalar?_quote_append {value : Scalar} (h : scanScalar? '"' text = some (value, rest))
    (more : List Char) : scanScalar? '"' (text ++ more) = some (value, rest ++ more) := by
  unfold scanScalar? at h ⊢
  simp only [if_true, Option.map_eq_some_iff, Prod.mk.injEq] at h ⊢
  obtain ⟨⟨pieces, _⟩, hscan, rfl, rfl⟩ := h
  exact ⟨_, scanString_append hscan more, rfl, rfl⟩

/-- **A scalar with something behind it** is the same scalar if still more follows. -/
theorem scanScalar?_append {c : Char} {value : Scalar}
    (h : scanScalar? c text = some (value, rest)) (hrest : rest ≠ []) (more : List Char) :
    scanScalar? c (text ++ more) = some (value, rest ++ more) := by
  by_cases hquote : c = '"'
  · subst hquote
    exact scanScalar?_quote_append h more
  have hword {word : List Char} {scalar : Scalar}
      (h : (behind? word text).map (scalar, ·) = some (value, rest)) :
      (behind? word (text ++ more)).map (scalar, ·) = some (value, rest ++ more) := by
    simp only [Option.map_eq_some_iff, Prod.mk.injEq] at h
    obtain ⟨_, hbehind, rfl, rfl⟩ := h
    rw [behind?_append hbehind]
    rfl
  unfold scanScalar? at h ⊢
  rw [if_neg hquote] at h ⊢
  split at h
  · exact (if_pos ‹_›).trans (hword h)
  rename_i hn
  rw [if_neg hn]
  split at h
  · exact (if_pos ‹_›).trans (hword h)
  rename_i ht
  rw [if_neg ht]
  split at h
  · exact (if_pos ‹_›).trans (hword h)
  rename_i hf
  rw [if_neg hf]
  simp only [Option.map_eq_some_iff, Prod.mk.injEq] at h
  obtain ⟨⟨numeral, _⟩, hscan, rfl, rfl⟩ := h
  have hmore := Numeral.scan_append_of_ne_nil hscan hrest more
  rw [List.cons_append] at hmore
  rw [hmore]
  rfl

theorem ne_newline_of_hexValue? {c : Char} {n : Nat} (h : hexValue? c = some n) : c ≠ '\n' := by
  rintro rfl
  cases h

theorem ne_newline_of_code? {a b c d : Char} {code : Nat} (h : code? a b c d = some code) :
    '\n' ∉ [a, b, c, d] := by
  unfold code? at h
  simp only [Option.bind_eq_bind, Option.bind_eq_some_iff] at h
  obtain ⟨_, ha, _, hb, _, hc, _, hd, -⟩ := h
  simp only [List.mem_cons, List.not_mem_nil, or_false, not_or]
  exact ⟨(ne_newline_of_hexValue? ha).symm, (ne_newline_of_hexValue? hb).symm,
    (ne_newline_of_hexValue? hc).symm, (ne_newline_of_hexValue? hd).symm⟩

/-- **A string is written on one line.** -/
theorem exists_append_of_scanString {pieces : List Piece}
    (h : scanString text = some (pieces, rest)) :
    ∃ content, text = content ++ rest ∧ '\n' ∉ content := by
  fun_induction scanString text generalizing pieces rest with
  | case1 => cases h
  | case2 => cases h; exact ⟨['"'], rfl, by decide⟩
  | case3 => cases h
  | case4 a b c d tail code hcode ih =>
    simp only [Option.map_eq_some_iff, Prod.mk.injEq] at h
    obtain ⟨⟨_, r⟩, hr, -, rfl⟩ := h
    obtain ⟨content, rfl, hline⟩ := ih hr
    refine ⟨'\\' :: 'u' :: ([a, b, c, d] ++ content), rfl, ?_⟩
    have hdigits := ne_newline_of_code? hcode
    simp only [List.mem_cons, List.mem_append, not_or] at hdigits ⊢
    exact ⟨by decide, by decide, hdigits, hline⟩
  | case5 => cases h
  | case6 c tail _ c' hc ih =>
    simp only [Option.map_eq_some_iff, Prod.mk.injEq] at h
    obtain ⟨⟨_, r⟩, hr, -, rfl⟩ := h
    obtain ⟨content, rfl, hline⟩ := ih hr
    refine ⟨'\\' :: c :: content, rfl, ?_⟩
    have hletter : '\n' ≠ c := by
      rintro rfl
      cases hc
    simp only [List.mem_cons, not_or]
    exact ⟨by decide, hletter, hline⟩
  | case7 => cases h
  | case8 c tail _ _ _ hc ih =>
    simp only [Option.map_eq_some_iff, Prod.mk.injEq] at h
    obtain ⟨⟨_, r⟩, hr, -, rfl⟩ := h
    obtain ⟨content, rfl, hline⟩ := ih hr
    refine ⟨c :: content, rfl, ?_⟩
    have hplain : '\n' ≠ c := by
      rintro rfl
      exact hc (.inl (by decide))
    exact List.not_mem_cons_of_ne_of_not_mem hplain hline

theorem newline_not_mem_of_quote {value : Scalar}
    (h : scanScalar? '"' text = some (value, [])) : '\n' ∉ '"' :: text := by
  unfold scanScalar? at h
  simp only [if_true, Option.map_eq_some_iff, Prod.mk.injEq] at h
  obtain ⟨⟨pieces, _⟩, hscan, -, rfl⟩ := h
  obtain ⟨content, rfl, hline⟩ := exists_append_of_scanString hscan
  rw [List.append_nil]
  exact List.not_mem_cons_of_ne_of_not_mem (by decide) hline

/-- What starts a scalar is neither a blank nor a token by itself. -/
theorem scanScalar?_plain {c : Char} {value : Scalar}
    (h : scanScalar? c text = some (value, rest)) :
    isBlank c = false ∧ punctuation? c = none := by
  have hne : ∀ d ∈ [' ', '\n', '\t', '\r', '[', ']', '{', '}', ':', ','], c ≠ d := by
    rintro d hd rfl
    simp only [List.mem_cons, List.not_mem_nil, or_false] at hd
    rcases hd with rfl | rfl | rfl | rfl | rfl | rfl | rfl | rfl | rfl | rfl <;> cases h
  simp only [List.forall_mem_cons] at hne
  obtain ⟨h1, h2, h3, h4, h5, h6, h7, h8, h9, h10, -⟩ := hne
  constructor
  · simp [isBlank, h1, h2, h3, h4]
  · unfold punctuation?
    split <;> first | rfl | contradiction

end Token

/-! ### Tokens with the text around them -/

section Lexemes

open Token

theorem lexemes_blank {c : Char} (h : isBlank c = true) (rest : List Char) :
    lexemes (c :: rest) = lexemes rest := by
  rw [lexemes, if_pos h]

theorem lexemes_punctuation {c : Char} {token : Token} (h : punctuation? c = some token)
    (rest : List Char) : lexemes (c :: rest) = ⟨token, c :: rest, rest⟩ :: lexemes rest := by
  rw [lexemes, if_neg (by simp [(endsNumber_of_punctuation h rest).2]), h]

theorem lexemes_scalar {c : Char} {value : Scalar}
    (h : scanScalar? c text = some (value, rest)) :
    lexemes (c :: text) = ⟨scalar value, c :: text, rest⟩ :: lexemes rest := by
  obtain ⟨hblank, hplain⟩ := scanScalar?_plain h
  rw [lexemes, if_neg (by simp [hblank]), hplain]
  dsimp only
  split
  · rename_i hnone
    rw [h] at hnone
    cases hnone
  · rename_i hsome
    rw [h] at hsome
    cases hsome
    rfl

/-- What stands around a token is the end of the text. -/
theorem suffix_of_mem_lexemes {lexeme : Lexeme} (h : lexeme ∈ lexemes text) :
    lexeme.start <:+ text ∧ lexeme.rest <:+ text := by
  fun_induction lexemes text with
  | case1 => cases h
  | case2 c rest _ ih =>
    obtain ⟨hstart, hrest⟩ := ih h
    exact ⟨hstart.trans (List.suffix_cons _ _), hrest.trans (List.suffix_cons _ _)⟩
  | case3 c rest _ token _ ih =>
    rcases List.mem_cons.1 h with rfl | h
    · exact ⟨List.suffix_rfl, List.suffix_cons _ _⟩
    · obtain ⟨hstart, hrest⟩ := ih h
      exact ⟨hstart.trans (List.suffix_cons _ _), hrest.trans (List.suffix_cons _ _)⟩
  | case4 c rest =>
    obtain rfl := List.mem_singleton.1 h
    exact ⟨List.suffix_rfl, List.suffix_cons _ _⟩
  | case5 c rest _ _ value rest' hscalar _ ih =>
    have hsuffix := scanScalar?_suffix hscalar
    rcases List.mem_cons.1 h with rfl | h
    · exact ⟨List.suffix_rfl, hsuffix⟩
    · obtain ⟨hstart, hrest⟩ := ih h
      exact ⟨hstart.trans hsuffix, hrest.trans hsuffix⟩

/-- The token with more text behind it. -/
def Lexeme.append (lexeme : Lexeme) (more : List Char) : Lexeme where
  token := lexeme.token
  start := lexeme.start ++ more
  rest := lexeme.rest ++ more

theorem getLast?_ne_of_cons {α : Type} {items : List α} {item last : α}
    (h : (item :: items).getLast? ≠ some last) : items.getLast? ≠ some last := by
  intro hlast
  refine h ?_
  rw [List.getLast?_cons, hlast]
  rfl

/-- **The tokens of a front stay what they are**, unless the last one could go on. The induction is
over the front, token by token. -/
theorem lexemes_append {front : List Char} (hbad : Token.bad ∉ scan front)
    (hlast : ∀ value, (scan front).getLast? ≠ some (.scalar value)) (more : List Char) :
    lexemes (front ++ more) = (lexemes front).map (·.append more) ++ lexemes more := by
  rw [← map_token_lexemes] at hbad hlast
  fun_induction lexemes front with
  | case1 => rfl
  | case2 c rest hblank ih =>
    rw [List.cons_append, lexemes_blank hblank]
    exact ih hbad hlast
  | case3 c rest _ token htoken ih =>
    rw [List.cons_append, lexemes_punctuation htoken, ih]
    · rfl
    · exact fun hmem => hbad (List.mem_cons_of_mem _ hmem)
    · exact fun value => getLast?_ne_of_cons (hlast value)
  | case4 => exact absurd List.mem_cons_self hbad
  | case5 c rest _ _ value rest' hscalar _ ih =>
    -- The last token is no scalar, so this one ends within the front.
    have hrest : rest' ≠ [] := by
      rintro rfl
      rw [lexemes] at hlast
      exact hlast value rfl
    rw [List.cons_append, lexemes_scalar (scanScalar?_append hscalar hrest more), ih]
    · rfl
    · exact fun hmem => hbad (List.mem_cons_of_mem _ hmem)
    · exact fun value => getLast?_ne_of_cons (hlast value)

end Lexemes

/-! ### What is open behind a front -/

namespace Document

/-- What is due behind the tokens, and the frames that are open then, if the document goes on. -/
def advance (due : Due) (frames : List Frame) : List Token → Option (Due × List Frame)
  | [] => some (due, frames)
  | token :: rest =>
    match step due token frames with
    | .stop _ => none
    | .goOn due frames => advance due frames rest
    | .finish part frames =>
      match deliver part frames with
      | .inl _ => none
      | .inr frames => advance .more frames rest

section Advance

variable {due due' : Due} {frames frames' : List Frame} {tokens : List Token}

/-- **Tokens behind a front** are taken as the front has left off. -/
theorem build_append_of_advance (h : advance due frames tokens = some (due', frames'))
    (more : List Token) : build due frames (tokens ++ more) = build due' frames' more := by
  induction tokens generalizing due frames with
  | nil => cases h; rfl
  | cons token rest ih =>
    rw [advance] at h
    rw [List.cons_append, build]
    generalize step due token frames = next at h ⊢
    cases next with
    | stop document => cases h
    | goOn due frames => exact ih h
    | finish part frames =>
      dsimp only at h ⊢
      generalize deliver part frames = delivered at h ⊢
      cases delivered with
      | inl document => cases h
      | inr frames => exact ih h

theorem exists_step_bad_eq_stop (due : Due) (frames : List Frame) :
    ∃ document, step due .bad frames = .stop document := by
  cases due <;> exact ⟨_, rfl⟩

theorem bad_not_mem_of_advance (h : advance due frames tokens = some (due', frames')) :
    Token.bad ∉ tokens := by
  induction tokens generalizing due frames with
  | nil => exact List.not_mem_nil
  | cons token rest ih =>
    have hhead : Token.bad ≠ token := by
      rintro rfl
      obtain ⟨document, hstop⟩ := exists_step_bad_eq_stop due frames
      rw [advance, hstop] at h
      cases h
    refine List.not_mem_cons_of_ne_of_not_mem hhead ?_
    rw [advance] at h
    split at h
    · cases h
    · exact ih h
    · split at h
      · cases h
      · exact ih h

/-- In an object a value is due behind a colon only. -/
theorem eq_colon_of_step {token : Token} {members : List (Document × Document)} {name : Document}
    (h : step due token frames = .goOn .value (.member members name :: frames')) :
    token = .colon := by
  unfold step at h
  split at h
  -- All others finish a value, or open one, or wait for something else.
  case h_7 => rfl
  all_goals first
    | cases h
    | (unfold stepValue at h; split at h <;> cases h)
    | (unfold stepName at h; split at h <;> cases h)

theorem getLast?_of_advance {members : List (Document × Document)} {name : Document}
    (h : advance due frames tokens = some (.value, .member members name :: frames'))
    (hne : tokens ≠ []) : tokens.getLast? = some .colon := by
  induction tokens generalizing due frames with
  | nil => exact absurd rfl hne
  | cons token rest ih =>
    rw [advance] at h
    by_cases hrest : rest = []
    · -- The value falls due with the last token.
      subst hrest
      split at h
      · cases h
      · rename_i hstep
        obtain ⟨rfl, rfl⟩ := Prod.mk.inj (Option.some.inj h)
        rw [eq_colon_of_step hstep]
        rfl
      · split at h <;> cases h
    · rw [List.getLast?_cons_of_ne_nil hrest]
      split at h
      · cases h
      · exact ih h hrest
      · split at h
        · cases h
        · exact ih h hrest

end Advance

end Document

/-! ### Fronts that lead to a value -/

/-- Behind this front of a text the value of the named member is due, in an object that is not in
another one, behind the given members, last first. -/
def LeadsTo (name : String) (before : List (Document × Document)) (front : List Char) : Prop :=
  Document.advance .value [] (Token.scan front) =
    some (.value, [.member before (.scalar (.string (some name)))])

namespace LeadsTo

variable {name : String} {before : List (Document × Document)} {front : List Char}

theorem scan_ne_nil (h : LeadsTo name before front) : Token.scan front ≠ [] := by
  intro hnil
  rw [LeadsTo, hnil] at h
  cases h

/-- **The tokens of the front stay what they are**, whatever follows. -/
theorem lexemes_append (h : LeadsTo name before front) (more : List Char) :
    lexemes (front ++ more) = (lexemes front).map (·.append more) ++ lexemes more := by
  refine Json.lexemes_append (Document.bad_not_mem_of_advance h) (fun value hlast => ?_) more
  rw [Document.getLast?_of_advance h h.scan_ne_nil] at hlast
  cases hlast

/-- Behind the front stands a string, and then the back. -/
theorem lexemes_string (h : LeadsTo name before front) {content : List Char} {value : Scalar}
    (hread : Token.scanScalar? '"' content = some (value, [])) (back : List Char) :
    lexemes (front ++ ('"' :: content ++ back)) =
      (lexemes front).map (·.append ('"' :: content ++ back)) ++
        ⟨.scalar value, '"' :: content ++ back, back⟩ :: lexemes back := by
  rw [h.lexemes_append, List.cons_append,
    lexemes_scalar (Token.scanScalar?_quote_append hread back)]
  rfl

theorem scan_append (h : LeadsTo name before front) (more : List Char) :
    Token.scan (front ++ more) = Token.scan front ++ Token.scan more := by
  rw [← map_token_lexemes, h.lexemes_append, List.map_append, List.map_map, map_token_lexemes,
    ← map_token_lexemes front]
  rfl

/-- **What follows the front** is the value, and then the rest of the object. -/
theorem build_append (h : LeadsTo name before front) (more : List Token) :
    Document.build .value [] (Token.scan front ++ more) =
      Document.build .value [.member before (.scalar (.string (some name)))] more :=
  Document.build_append_of_advance h more

end LeadsTo

/-- The literal is a string that stands for the text. -/
def IsQuoted (literal text : String) : Prop :=
  ∃ content, literal.toList = '"' :: content ∧
    Token.scanScalar? '"' content = some (.string (some text), [])

/-- The literal is what a reader takes for a scalar of this value where it is followed by `back`. -/
def IsTaken (literal : String) (value : Scalar) (back : String) : Prop :=
  ∃ c content, literal.toList ++ back.toList = c :: content ∧
    Token.scanScalar? c content = some (value, back.toList)

/-! ### What was read stays -/

namespace Document

variable {before : List (Document × Document)} {name : Document} {kind : Document → Prop}

/-- An object in which the value of the named member is read, and is or will be of the given kind,
or in which it has been read. -/
inductive Holds (before : List (Document × Document)) (name : Document) (kind : Document → Prop) :
    List Frame → Prop
  | array (items : List Document) (h : ∀ items, kind (array items)) :
      Holds before name kind [.array items, .member before name]
  | object (members : List (Document × Document)) (h : ∀ members, kind (object members)) :
      Holds before name kind [.object members, .member before name]
  | member (members : List (Document × Document)) (next : Document)
      (h : ∀ members, kind (object members)) :
      Holds before name kind [.member members next, .member before name]
  | read (after : List (Document × Document)) {value : Document} (h : kind value) :
      Holds before name kind [.object (after ++ (name, value) :: before)]
  | readMember (after : List (Document × Document)) {value : Document} (next : Document)
      (h : kind value) : Holds before name kind [.member (after ++ (name, value) :: before) next]
  | cons (frame : Frame) {frames : List Frame} (h : Holds before name kind frames) :
      Holds before name kind (frame :: frames)

/-- An object with these members, then the named one with a value of the given kind, then more. -/
def HasMember (before : List (Document × Document)) (name : Document) (kind : Document → Prop)
    (document : Document) : Prop :=
  ∃ value after, kind value ∧ document = object (before.reverse ++ (name, value) :: after)

theorem hasMember_reverse {value : Document} (h : kind value)
    (after : List (Document × Document)) :
    HasMember before name kind (object (after ++ (name, value) :: before).reverse) := by
  refine ⟨value, after.reverse, h, ?_⟩
  rw [List.reverse_append, List.reverse_cons, List.append_assoc, List.singleton_append]

theorem Holds.hasMember_closeWith {frames : List Frame} (h : Holds before name kind frames)
    (part : Document) : HasMember before name kind (closeWith part frames) := by
  induction h generalizing part with
  | array items hkind => exact hasMember_reverse (hkind _) []
  | object members hkind => exact hasMember_reverse (hkind _) []
  | member members next hkind => exact hasMember_reverse (hkind _) []
  | read after hvalue => exact hasMember_reverse hvalue ((part, malformed) :: after)
  | readMember after next hvalue => exact hasMember_reverse hvalue ((next, part) :: after)
  | cons frame _ ih =>
    cases frame with
    | array items => exact ih _
    | object members => exact ih _
    | member members name => exact ih _

theorem Holds.exists_deliver {frames : List Frame} (h : Holds before name kind frames)
    (part : Document) :
    ∃ frames', deliver part frames = .inr frames' ∧ Holds before name kind frames' := by
  cases h with
  | array items hkind => exact ⟨_, rfl, .array _ hkind⟩
  | object members hkind => exact ⟨_, rfl, .object _ hkind⟩
  | member members next hkind => exact ⟨_, rfl, .object _ hkind⟩
  | read after hvalue => exact ⟨_, rfl, .read ((part, malformed) :: after) hvalue⟩
  | readMember after next hvalue => exact ⟨_, rfl, .read ((next, part) :: after) hvalue⟩
  | cons frame h =>
    cases frame with
    | array items => exact ⟨_, rfl, .cons _ h⟩
    | object members => exact ⟨_, rfl, .cons _ h⟩
    | member members name => exact ⟨_, rfl, .cons _ h⟩

/-- A finished part leaves the object open, or it is the value, or it is the object. -/
inductive Step.Keeps (before : List (Document × Document)) (name : Document)
    (kind : Document → Prop) : Step → Prop
  | inside (part : Document) {frames : List Frame} (h : Holds before name kind frames) :
      Keeps before name kind (.finish part frames)
  | value {part : Document} (h : kind part) :
      Keeps before name kind (.finish part [.member before name])
  | whole {document : Document} (h : HasMember before name kind document) :
      Keeps before name kind (.finish document [])
  | goOn (due : Due) {frames : List Frame} (h : Holds before name kind frames) :
      Keeps before name kind (.goOn due frames)
  | stop {document : Document} (h : HasMember before name kind document) :
      Keeps before name kind (.stop document)

theorem Holds.stepValue {frames : List Frame} (h : Holds before name kind frames)
    (token : Token) : (stepValue token frames).Keeps before name kind := by
  unfold Document.stepValue
  split
  · exact .inside _ h
  · exact .goOn _ (.cons _ h)
  · exact .goOn _ (.cons _ h)
  · exact .stop (h.hasMember_closeWith _)

theorem Holds.stepName {frames : List Frame} (h : Holds before name kind frames)
    (token : Token) : (stepName token frames).Keeps before name kind := by
  unfold Document.stepName
  split
  · cases h with
    | object members hkind => exact .goOn _ (.member _ _ hkind)
    | read after hvalue => exact .goOn _ (.readMember _ _ hvalue)
    | cons _ h => exact .goOn _ (.cons _ h)
  · exact .stop (h.hasMember_closeWith _)

theorem Holds.endArray {items : List Document} {frames : List Frame}
    (h : Holds before name kind (.array items :: frames)) :
    (Step.finish (Document.array items.reverse) frames).Keeps before name kind := by
  cases h with
  | array _ hkind => exact .value (hkind _)
  | cons _ h => exact .inside _ h

theorem Holds.endObject {members : List (Document × Document)} {frames : List Frame}
    (h : Holds before name kind (.object members :: frames)) :
    (Step.finish (Document.object members.reverse) frames).Keeps before name kind := by
  cases h with
  | object _ hkind => exact .value (hkind _)
  | read after hvalue => exact .whole (hasMember_reverse hvalue after)
  | cons _ h => exact .inside _ h

/-- **One token** leaves the member where it is. -/
theorem Holds.step {frames : List Frame} (h : Holds before name kind frames) (due : Due)
    (token : Token) : (step due token frames).Keeps before name kind := by
  unfold Document.step
  split
  case h_1 => exact h.stepValue _
  case h_2 => exact h.endArray
  case h_3 => exact h.stepValue _
  case h_4 => exact h.endObject
  case h_5 => exact h.stepName _
  case h_6 => exact h.stepName _
  case h_7 => exact .goOn _ h
  case h_8 => exact .stop (h.hasMember_closeWith _)
  case h_9 => exact .goOn _ h
  case h_10 => exact .goOn _ h
  case h_11 => exact h.endArray
  case h_12 => exact h.endObject
  case h_13 => exact .stop (h.hasMember_closeWith _)

/-- **Whatever follows, the member stays where it is.** The induction is over the tokens. -/
theorem Holds.build {frames : List Frame} (h : Holds before name kind frames) (due : Due)
    (tokens : List Token) : HasMember before name kind (build due frames tokens).1 := by
  induction tokens generalizing due frames with
  | nil => exact h.hasMember_closeWith _
  | cons token rest ih =>
    rw [Document.build]
    have hstep := h.step due token
    generalize Document.step due token frames = next at hstep
    cases hstep with
    | stop hdocument => exact hdocument
    | goOn due' hframes => exact ih hframes due'
    | whole hdocument => exact hdocument
    | value hkind => exact ih (.read [] hkind) .more
    | inside part hframes =>
      obtain ⟨frames', hdeliver, hholds⟩ := hframes.exists_deliver part
      simp only [hdeliver]
      exact ih hholds .more

end Document

/-- **The scalar behind a front** is the value of the member that the front leads to. -/
theorem LeadsTo.hasMember_scalar {name : String} {before : List (Document × Document)}
    {front content back : List Char} (h : LeadsTo name before front) {c : Char} {value : Scalar}
    (hread : Token.scanScalar? c content = some (value, back)) :
    Document.HasMember before (.scalar (.string (some name))) (· = .scalar value)
      (Document.build .value [] (Token.scan (front ++ c :: content))).1 := by
  have hholds : Document.Holds before (.scalar (.string (some name))) (· = .scalar value)
      [.object ((.scalar (.string (some name)), .scalar value) :: before)] := .read [] rfl
  rw [h.scan_append, h.build_append,
    Token.scan_scalar (Token.scanScalar?_plain hread) hread]
  exact hholds.build .more _

end Remit.Json
