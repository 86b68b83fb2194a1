import Mathlib.Data.List.Basic
import Mathlib.Tactic.IntervalCases
import Remit.Json.Document

/-!
# Printed values are read back

A printed value is cut into tokens again, and the tokens are put together to the document of the
value. The tokens of a value (`Json.tokens`) stand between the two halves. They are the same for
the text without blanks and for the indented one, so that what holds of the one holds of the other.

* `Token.reads_chars`, `Token.reads_indentedChars`: the tokens of a printed value;
* `Document.build_tokens`: the document that they make;
* `Document.ofText_render`, `Document.ofText_renderIndented`: a printed value is read as its
  document, and nothing is left of the text.

All this holds for values whose numbers are integers of 64 bits (`Json.IsExact`). Another number is
a double, of which a reader makes a double again, though not always the same one.
-/

namespace Remit.Json

/-! ### Exact values -/

/-- An integer that is read as what is written. -/
def Number.IsExact : Number → Prop
  | integer value => -2 ^ 63 ≤ value ∧ value < 2 ^ 64
  | double _ => False

mutual

/-- All numbers in the value are read as what is written. -/
def IsExact : Json → Prop
  | null => True
  | bool _ => True
  | number value => value.IsExact
  | string _ => True
  | array items => AreItemsExact items
  | object members => AreMembersExact members

/-- The same for all items. -/
def AreItemsExact : List Json → Prop
  | [] => True
  | item :: rest => item.IsExact ∧ AreItemsExact rest

/-- The same for the values of all members. -/
def AreMembersExact : List (String × Json) → Prop
  | [] => True
  | (_, value) :: rest => value.IsExact ∧ AreMembersExact rest

end

theorem areMembersExact_iff {members : List (String × Json)} :
    AreMembersExact members ↔ ∀ m ∈ members, m.2.IsExact := by
  induction members with
  | nil => simp [AreMembersExact]
  | cons m rest ih =>
    obtain ⟨name, value⟩ := m
    rw [AreMembersExact, ih, List.forall_mem_cons]

/-! ### Numerals -/

/-- A number cannot go on in this text. -/
def EndsNumber (text : List Char) : Prop :=
  ∀ c ∈ text.head?, c.isDigit = false ∧ c ≠ '.' ∧ c ≠ 'e' ∧ c ≠ 'E'

theorem endsNumber_cons {c : Char} {text : List Char}
    (h : c.isDigit = false ∧ c ≠ '.' ∧ c ≠ 'e' ∧ c ≠ 'E') : EndsNumber (c :: text) := by
  intro d hd
  obtain rfl : c = d := Option.some.inj hd
  exact h

theorem takeWhile_isDigit_append {digits rest : List Char}
    (hd : ∀ c ∈ digits, c.isDigit = true) (hr : ∀ c ∈ rest.head?, c.isDigit = false) :
    (digits ++ rest).takeWhile Char.isDigit = digits ∧
      (digits ++ rest).dropWhile Char.isDigit = rest := by
  induction digits with
  | nil =>
    cases rest with
    | nil => exact ⟨rfl, rfl⟩
    | cons c rest => simp [hr c rfl]
  | cons c digits ih =>
    obtain ⟨htake, hdrop⟩ := ih fun d h => hd d (List.mem_cons_of_mem c h)
    have hc : c.isDigit = true := hd c List.mem_cons_self
    rw [List.cons_append, List.takeWhile_cons_of_pos hc, List.dropWhile_cons_of_pos hc, htake]
    exact ⟨rfl, hdrop⟩

/-- Only the number zero is written with a leading zero. -/
theorem eq_zero_of_head?_toDigits {n : Nat} (h : (Nat.toDigits 10 n).head? = some '0') :
    n = 0 := by
  induction n using Nat.strong_induction_on with
  | _ n ih =>
    by_cases hn : n < 10
    · rw [Nat.toDigits_of_lt_base hn] at h
      interval_cases n
      · rfl
      all_goals exact absurd h (by decide)
    · rw [Nat.toDigits_of_base_le (by decide) (by omega),
        List.head?_append_of_ne_nil _ Nat.toDigits_ne_nil] at h
      have hzero := ih (n / 10) (by omega) h
      omega

namespace Numeral

theorem scanDigits?_append {digits rest : List Char} (hne : digits ≠ [])
    (hd : ∀ c ∈ digits, c.isDigit = true) (hr : ∀ c ∈ rest.head?, c.isDigit = false) :
    scanDigits? (digits ++ rest) = some (digits, rest) := by
  obtain ⟨htake, hdrop⟩ := takeWhile_isDigit_append hd hr
  unfold scanDigits?
  rw [htake, hdrop]
  cases digits with
  | nil => exact absurd rfl hne
  | cons c digits => rfl

theorem scanFraction?_of_endsNumber {rest : List Char} (h : EndsNumber rest) :
    scanFraction? rest = some ([], rest) := by
  cases rest with
  | nil => rfl
  | cons c rest =>
    unfold scanFraction?
    split
    · rename_i heq
      exact absurd (List.cons.inj heq).1 (h c rfl).2.1
    · rfl

theorem scanExponent?_of_endsNumber {rest : List Char} (h : EndsNumber rest) :
    scanExponent? rest = some (none, rest) := by
  cases rest with
  | nil => rfl
  | cons c rest =>
    have hc : ¬ (c = 'e' ∨ c = 'E') := by
      rw [not_or]
      exact (h c rfl).2.2
    exact if_neg hc

/-- The digits of a natural number are split off as they stand. -/
theorem scan_parts {n : Nat} {rest : List Char} (h : EndsNumber rest) :
    scanDigits? (Nat.toDigits 10 n ++ rest) = some (Nat.toDigits 10 n, rest) ∧
      ¬ ((Nat.toDigits 10 n).head? = some '0' ∧ (Nat.toDigits 10 n).length ≠ 1) := by
  constructor
  · refine scanDigits?_append Nat.toDigits_ne_nil (fun c hc => ?_) fun c hc => (h c hc).1
    exact Nat.isDigit_of_mem_toDigits (by decide) (by decide) hc
  · rintro ⟨hhead, hlength⟩
    rw [eq_zero_of_head?_toDigits hhead] at hlength
    exact hlength rfl

theorem head?_toDigits_append_ne_minus {n : Nat} {rest : List Char} :
    ∀ tail, Nat.toDigits 10 n ++ rest ≠ '-' :: tail := by
  intro tail heq
  have hmem : '-' ∈ Nat.toDigits 10 n := by
    cases hdigits : Nat.toDigits 10 n with
    | nil => exact absurd hdigits Nat.toDigits_ne_nil
    | cons d digits =>
      rw [hdigits, List.cons_append] at heq
      rw [(List.cons.inj heq).1]
      exact List.mem_cons_self
  have hdigit : Char.isDigit '-' = true :=
    Nat.isDigit_of_mem_toDigits (by decide) (by decide) hmem
  exact absurd hdigit (by decide)

theorem scan_toDigits {n : Nat} {rest : List Char} (h : EndsNumber rest) :
    scan (Nat.toDigits 10 n ++ rest) = some (⟨false, Nat.toDigits 10 n, [], none⟩, rest) := by
  obtain ⟨hscan, hwhole⟩ := scan_parts (n := n) h
  unfold scan
  split
  rename_i isNegative text hsign
  split at hsign
  · rename_i tail heq
    exact absurd heq (head?_toDigits_append_ne_minus tail)
  · obtain ⟨rfl, rfl⟩ := Prod.mk.inj hsign
    simp only [hscan, if_neg hwhole, scanFraction?_of_endsNumber h, scanExponent?_of_endsNumber h]

theorem scan_minus_toDigits {n : Nat} {rest : List Char} (h : EndsNumber rest) :
    scan ('-' :: (Nat.toDigits 10 n ++ rest)) =
      some (⟨true, Nat.toDigits 10 n, [], none⟩, rest) := by
  obtain ⟨hscan, hwhole⟩ := scan_parts (n := n) h
  unfold scan
  simp only [hscan, if_neg hwhole, scanFraction?_of_endsNumber h, scanExponent?_of_endsNumber h]

/-- **An integer of 64 bits is read as it is written.** -/
theorem scan_integerText {value : Int} (hvalue : (Number.integer value).IsExact)
    {rest : List Char} (h : EndsNumber rest) :
    ∃ numeral, scan (integerText value ++ rest) = some (numeral, rest) ∧
      numeral.value? = some (.integer value) := by
  obtain ⟨hlow, hhigh⟩ := hvalue
  unfold integerText Decimal.signed
  by_cases hneg : value < 0
  · refine ⟨⟨true, Nat.toDigits 10 value.natAbs, [], none⟩, ?_, ?_⟩
    · rw [if_pos (decide_eq_true hneg), List.cons_append]
      exact scan_minus_toDigits h
    · have hpos : 0 < value.natAbs ∧ value.natAbs ≤ Nat.pow 2 63 := by
        refine ⟨by omega, ?_⟩
        show value.natAbs ≤ 2 ^ 63
        omega
      simp only [value?, Nat.ofDigitChars_ten_toDigits, List.isEmpty_nil, Option.isNone_none,
        Bool.and_self, Bool.not_true, Bool.false_and, Bool.and_false, Bool.false_eq_true, if_false,
        decide_eq_true hpos.1, decide_eq_true hpos.2, if_true]
      rw [show -(value.natAbs : Int) = value by omega]
  · refine ⟨⟨false, Nat.toDigits 10 value.natAbs, [], none⟩, ?_, ?_⟩
    · rw [if_neg (by simpa using hneg)]
      exact scan_toDigits h
    · have hlt : value.natAbs < wordLimit := by
        show value.natAbs < 2 ^ 64
        omega
      simp only [value?, Nat.ofDigitChars_ten_toDigits, List.isEmpty_nil, Option.isNone_none,
        Bool.and_self, Bool.not_false, decide_eq_true hlt, if_true]
      rw [show (value.natAbs : Int) = value by omega]

end Numeral

namespace Token

/-! ### Strings -/

/-- A control character is escaped by its code, which has two digits. -/
theorem code?_control {c : Char} (h : c.toNat < 32) :
    code? '0' '0' (Nat.digitChar (c.toNat / 16)) (Nat.digitChar (c.toNat % 16)) =
      some c.toNat := by
  have table : ∀ n : Fin 32,
      code? '0' '0' (Nat.digitChar (n / 16)) (Nat.digitChar (n % 16)) = some n.val := by
    decide +kernel
  exact table ⟨c.toNat, h⟩

theorem scanString_escapeChar (c : Char) (rest : List Char) :
    scanString (escapeChar c ++ rest) =
      (scanString rest).map fun (pieces, rest) => (.char c :: pieces, rest) := by
  unfold escapeChar
  -- One case for each line of the table of escapes.
  by_cases hquote : c = '"'
  · rw [if_pos hquote, hquote]; rfl
  rw [if_neg hquote]
  by_cases hslash : c = '\\'
  · rw [if_pos hslash, hslash]; rfl
  rw [if_neg hslash]
  by_cases hback : c = '\x08'
  · rw [if_pos hback, hback]; rfl
  rw [if_neg hback]
  by_cases hfeed : c = '\x0c'
  · rw [if_pos hfeed, hfeed]; rfl
  rw [if_neg hfeed]
  by_cases hline : c = '\n'
  · rw [if_pos hline, hline]; rfl
  rw [if_neg hline]
  by_cases hreturn : c = '\r'
  · rw [if_pos hreturn, hreturn]; rfl
  rw [if_neg hreturn]
  by_cases htab : c = '\t'
  · rw [if_pos htab, htab]; rfl
  rw [if_neg htab]
  by_cases hcontrol : c.toNat < 32
  · have hpiece : Piece.ofCode c.toNat = .char c := by
      unfold Piece.ofCode
      rw [if_neg (by omega), Char.ofNat_toNat]
    rw [if_pos hcontrol]
    simp only [List.cons_append, List.nil_append]
    rw [scanString, code?_control hcontrol]
    simp only [hpiece]
  · rw [if_neg hcontrol, List.singleton_append, scanString]
    · rw [if_neg (by simp [hcontrol, hslash])]
    all_goals simp [hquote, hslash]

theorem scanString_flatMap (cs rest : List Char) :
    scanString (cs.flatMap escapeChar ++ '"' :: rest) = some (cs.map .char, rest) := by
  induction cs with
  | nil => rfl
  | cons c cs ih =>
    rw [List.flatMap_cons, List.append_assoc, scanString_escapeChar, ih]
    rfl

theorem joinPieces_map_char (cs : List Char) : joinPieces (cs.map .char) = some cs := by
  induction cs with
  | nil => rfl
  | cons c cs ih =>
    rw [List.map_cons, joinPieces, ih]
    rfl

/-- **A printed string is read as the text**, whatever characters are in it. -/
theorem scanScalar?_stringText (text : String) (rest : List Char) :
    scanScalar? '"' (text.toList.flatMap escapeChar ++ '"' :: rest) =
      some (.string (some text), rest) := by
  unfold scanScalar?
  rw [if_pos rfl, scanString_flatMap]
  simp only [Option.map_some, joinPieces_map_char, String.ofList_toList]

/-! ### Single tokens -/

theorem scan_blank {c : Char} {rest : List Char} (h : isBlank c = true) :
    scan (c :: rest) = scan rest := by
  rw [scan, if_pos h]

theorem scan_punctuation {c : Char} {rest : List Char} {token : Token}
    (h : punctuation? c = some token) (hc : isBlank c = false) :
    scan (c :: rest) = token :: scan rest := by
  rw [scan, if_neg (by simp [hc]), h]

theorem scan_scalar {c : Char} {text rest : List Char} {value : Scalar}
    (hc : isBlank c = false ∧ punctuation? c = none)
    (h : scanScalar? c text = some (value, rest)) :
    scan (c :: text) = scalar value :: scan rest := by
  rw [scan, if_neg (by simp [hc.1]), hc.2]
  dsimp only
  split
  · rename_i hnone
    rw [h] at hnone
    cases hnone
  · rename_i value' rest' hsome
    rw [h] at hsome
    obtain ⟨rfl, rfl⟩ := Prod.mk.inj (Option.some.inj hsome)
    rfl

theorem scan_stringText (text : String) (rest : List Char) :
    scan (stringText text ++ rest) = scalar (.string (some text)) :: scan rest := by
  have htext : stringText text ++ rest =
      '"' :: (text.toList.flatMap escapeChar ++ '"' :: rest) := by
    simp [stringText]
  rw [htext]
  exact scan_scalar (by decide) (scanScalar?_stringText text rest)

/-- A digit or a sign starts a number and nothing else. -/
theorem starts_number {c : Char} (h : c.isDigit = true ∨ c = '-') (rest : List Char) :
    (isBlank c = false ∧ punctuation? c = none) ∧
      scanScalar? c rest = (Numeral.scan (c :: rest)).map fun (numeral, rest) =>
        (.number numeral.value?, rest) := by
  have hne : ∀ d ∈ [' ', '\n', '\t', '\r', '[', ']', '{', '}', ':', ',', '"', 'n', 't', 'f'],
      c ≠ d := by
    rintro d hd rfl
    simp only [List.mem_cons, List.not_mem_nil, or_false] at hd
    rcases hd with rfl | rfl | rfl | rfl | rfl | rfl | rfl | rfl | rfl | rfl | rfl | rfl | rfl |
      rfl <;> exact absurd h (by decide)
  simp only [List.forall_mem_cons] at hne
  obtain ⟨h1, h2, h3, h4, h5, h6, h7, h8, h9, h10, h11, h12, h13, h14, -⟩ := hne
  refine ⟨⟨?_, ?_⟩, ?_⟩
  · simp [isBlank, h1, h2, h3, h4]
  · unfold punctuation?
    split <;> first | rfl | contradiction
  · unfold scanScalar?
    rw [if_neg h11, if_neg h12, if_neg h13, if_neg h14]

theorem exists_integerText_eq_cons (value : Int) :
    ∃ c digits, integerText value = c :: digits ∧ (c.isDigit = true ∨ c = '-') := by
  unfold integerText Decimal.signed
  by_cases hneg : value < 0
  · rw [if_pos (decide_eq_true hneg)]
    exact ⟨_, _, rfl, Or.inr rfl⟩
  · rw [if_neg (by simpa using hneg)]
    cases hdigits : Nat.toDigits 10 value.natAbs with
    | nil => exact absurd hdigits Nat.toDigits_ne_nil
    | cons d digits =>
      have hd : d ∈ Nat.toDigits 10 value.natAbs := hdigits ▸ List.mem_cons_self
      exact ⟨d, digits, rfl, Or.inl (Nat.isDigit_of_mem_toDigits (by decide) (by decide) hd)⟩

theorem scan_numberText {value : Number} (hvalue : value.IsExact) {rest : List Char}
    (h : EndsNumber rest) :
    scan (value.text ++ rest) = scalar (.number (some value)) :: scan rest := by
  cases value with
  | double bits => exact absurd hvalue id
  | integer value =>
    show scan (integerText value ++ rest) = _
    obtain ⟨c, digits, htext, hc⟩ := exists_integerText_eq_cons value
    obtain ⟨numeral, hscan, hnumeral⟩ := Numeral.scan_integerText hvalue h
    rw [htext, List.cons_append] at hscan ⊢
    obtain ⟨hplain, hscalar⟩ := starts_number hc (digits ++ rest)
    refine scan_scalar hplain ?_
    simp only [hscalar, hscan, Option.map_some, hnumeral]

end Token

/-! ### The tokens of a value -/

mutual

/-- The tokens of a value. -/
def tokens : Json → List Token
  | null => [.scalar .null]
  | bool value => [.scalar (.bool value)]
  | number value => [.scalar (.number (some value))]
  | string text => [.scalar (.string (some text))]
  | array items => .beginArray :: itemTokens items
  | object members => .beginObject :: memberTokens members

/-- The tokens of the items of an array, and the one that ends it. -/
def itemTokens : List Json → List Token
  | [] => [.endArray]
  | [item] => item.tokens ++ [.endArray]
  | item :: next :: rest => item.tokens ++ .comma :: itemTokens (next :: rest)

/-- The tokens of the members of an object, and the one that ends it. -/
def memberTokens : List (String × Json) → List Token
  | [] => [.endObject]
  | [(name, value)] =>
    .scalar (.string (some name)) :: .colon :: value.tokens ++ [.endObject]
  | (name, value) :: next :: rest =>
    .scalar (.string (some name)) :: .colon :: value.tokens ++
      .comma :: memberTokens (next :: rest)

end

namespace Token

theorem scan_word_null (rest : List Char) :
    scan ('n' :: 'u' :: 'l' :: 'l' :: rest) = scalar .null :: scan rest :=
  scan_scalar (by decide) rfl

theorem scan_word_bool (value : Bool) (rest : List Char) :
    scan ((bool value).chars ++ rest) = scalar (.bool value) :: scan rest := by
  cases value with
  | true => exact scan_scalar (by decide) rfl
  | false => exact scan_scalar (by decide) rfl

/-- The text is cut into the tokens, whatever stands behind it, as long as that is not taken for
more digits of a number. -/
def Reads (text : List Char) (ts : List Token) : Prop :=
  ∀ rest, EndsNumber rest → scan (text ++ rest) = ts ++ scan rest

theorem endsNumber_of_punctuation {c : Char} {token : Token} (h : punctuation? c = some token)
    (rest : List Char) : EndsNumber (c :: rest) ∧ isBlank c = false := by
  unfold punctuation? at h
  split at h
  case h_7 => cases h
  all_goals exact ⟨endsNumber_cons (by decide), by decide⟩

theorem scan_cons_punctuation {c : Char} {token : Token} (h : punctuation? c = some token)
    (rest : List Char) : scan (c :: rest) = token :: scan rest :=
  scan_punctuation h (endsNumber_of_punctuation h rest).2

theorem Reads.punctuation {text : List Char} {ts : List Token} (h : Reads text ts) {c : Char}
    {token : Token} (hc : punctuation? c = some token) (rest : List Char) :
    scan (text ++ c :: rest) = ts ++ token :: scan rest := by
  rw [h _ (endsNumber_of_punctuation hc rest).1, scan_cons_punctuation hc]

/-! ### Without blanks -/

mutual

/-- **The tokens of a value are those of its text.** -/
theorem reads_chars (v : Json) (hv : v.IsExact) : Reads v.chars v.tokens := by
  intro rest hrest
  match v, hv with
  | .null, _ => exact scan_word_null rest
  | .bool value, _ => exact scan_word_bool value rest
  | .number value, hv => exact scan_numberText hv hrest
  | .string text, _ => exact scan_stringText text rest
  | .array items, hv =>
    show scan ('[' :: (itemChars items ++ rest)) = .beginArray :: (itemTokens items ++ scan rest)
    rw [scan_cons_punctuation rfl, scan_itemChars items hv rest]
  | .object members, hv =>
    show scan ('{' :: (memberChars members ++ rest)) =
      .beginObject :: (memberTokens members ++ scan rest)
    rw [scan_cons_punctuation rfl, scan_memberChars members hv rest]

theorem scan_itemChars (items : List Json) (hitems : AreItemsExact items) (rest : List Char) :
    scan (itemChars items ++ rest) = itemTokens items ++ scan rest := by
  match items, hitems with
  | [], _ => exact scan_cons_punctuation rfl rest
  | [item], hitems =>
    simp only [itemChars, itemTokens, List.append_assoc, List.cons_append, List.nil_append]
    exact (reads_chars item hitems.1).punctuation rfl rest
  | item :: next :: more, hitems =>
    simp only [itemChars, itemTokens, List.append_assoc, List.cons_append]
    rw [(reads_chars item hitems.1).punctuation rfl, scan_itemChars (next :: more) hitems.2 rest]

theorem scan_memberChars (members : List (String × Json)) (hmembers : AreMembersExact members)
    (rest : List Char) :
    scan (memberChars members ++ rest) = memberTokens members ++ scan rest := by
  match members, hmembers with
  | [], _ => exact scan_cons_punctuation rfl rest
  | [(name, value)], hmembers =>
    simp only [memberChars, memberTokens, List.append_assoc, List.cons_append, List.nil_append]
    rw [scan_stringText, scan_cons_punctuation rfl,
      (reads_chars value hmembers.1).punctuation rfl]
  | (name, value) :: next :: more, hmembers =>
    simp only [memberChars, memberTokens, List.append_assoc, List.cons_append]
    rw [scan_stringText, scan_cons_punctuation rfl,
      (reads_chars value hmembers.1).punctuation rfl,
      scan_memberChars (next :: more) hmembers.2 rest]

end

/-! ### Indented -/

theorem scan_newLine (level : Nat) (rest : List Char) :
    scan (newLine level ++ rest) = scan rest := by
  have hblanks : ∀ count, scan (List.replicate count ' ' ++ rest) = scan rest := by
    intro count
    induction count with
    | zero => rfl
    | succ count ih => rw [List.replicate_succ, List.cons_append, scan_blank rfl, ih]
  rw [newLine, List.cons_append, scan_blank rfl, hblanks]

theorem Reads.newLine {text : List Char} {ts : List Token} (h : Reads text ts) (level : Nat)
    (rest : List Char) : scan (text ++ (newLine level ++ rest)) = ts ++ scan rest := by
  have hends : EndsNumber (Json.newLine level ++ rest) := endsNumber_cons (by decide)
  rw [h _ hends, scan_newLine]

mutual

/-- **Line ends and blanks make no difference.** -/
theorem reads_indentedChars (v : Json) (hv : v.IsExact) (level : Nat) :
    Reads (v.indentedChars level) v.tokens := by
  intro rest hrest
  match v, hv with
  | .null, _ => exact scan_word_null rest
  | .bool true, _ => exact scan_word_bool true rest
  | .bool false, _ => exact scan_word_bool false rest
  | .number value, hv => exact scan_numberText hv hrest
  | .string text, _ => exact scan_stringText text rest
  | .array [], _ =>
    show scan ('[' :: ']' :: rest) = _
    rw [scan_cons_punctuation rfl, scan_cons_punctuation rfl]
    rfl
  | .object [], _ =>
    show scan ('{' :: '}' :: rest) = _
    rw [scan_cons_punctuation rfl, scan_cons_punctuation rfl]
    rfl
  | .array (item :: more), hv =>
    simp only [indentedChars, tokens, List.append_assoc, List.cons_append, List.nil_append]
    rw [scan_cons_punctuation rfl, scan_newLine, scan_indentedItems (item :: more) hv]
  | .object (member :: more), hv =>
    simp only [indentedChars, tokens, List.append_assoc, List.cons_append, List.nil_append]
    rw [scan_cons_punctuation rfl, scan_newLine, scan_indentedMembers (member :: more) hv]

theorem scan_indentedItems (items : List Json) (hitems : AreItemsExact items)
    (level outer : Nat) (rest : List Char) :
    scan (indentedItems level items ++ (newLine outer ++ ']' :: rest)) =
      itemTokens items ++ scan rest := by
  match items, hitems with
  | [], _ =>
    show scan (newLine outer ++ ']' :: rest) = .endArray :: scan rest
    rw [scan_newLine, scan_cons_punctuation rfl]
  | [item], hitems =>
    simp only [indentedItems, itemTokens, List.append_assoc, List.cons_append, List.nil_append]
    rw [(reads_indentedChars item hitems.1 level).newLine, scan_cons_punctuation rfl]
  | item :: next :: more, hitems =>
    simp only [indentedItems, itemTokens, List.append_assoc, List.cons_append]
    rw [(reads_indentedChars item hitems.1 level).punctuation rfl, scan_newLine,
      scan_indentedItems (next :: more) hitems.2]

theorem scan_indentedMembers (members : List (String × Json))
    (hmembers : AreMembersExact members) (level outer : Nat) (rest : List Char) :
    scan (indentedMembers level members ++ (newLine outer ++ '}' :: rest)) =
      memberTokens members ++ scan rest := by
  match members, hmembers with
  | [], _ =>
    show scan (newLine outer ++ '}' :: rest) = .endObject :: scan rest
    rw [scan_newLine, scan_cons_punctuation rfl]
  | [(name, value)], hmembers =>
    simp only [indentedMembers, memberTokens, List.append_assoc, List.cons_append, List.nil_append]
    rw [scan_stringText, scan_cons_punctuation rfl, scan_blank rfl,
      (reads_indentedChars value hmembers.1 level).newLine, scan_cons_punctuation rfl]
  | (name, value) :: next :: more, hmembers =>
    simp only [indentedMembers, memberTokens, List.append_assoc, List.cons_append]
    rw [scan_stringText, scan_cons_punctuation rfl, scan_blank rfl,
      (reads_indentedChars value hmembers.1 level).punctuation rfl, scan_newLine,
      scan_indentedMembers (next :: more) hmembers.2]

end

end Token

namespace Document

/-! ### Putting the tokens together -/

/-- Goes on behind a part that is finished. -/
def resume (part : Document) (frames : List Frame) (rest : List Token) : Document × List Token :=
  match deliver part frames with
  | .inl document => (document, rest)
  | .inr frames => build .more frames rest

/-- A value does not start like the end of an array. -/
theorem build_firstItem_tokens (v : Json) (frames : List Frame) (rest : List Token) :
    build .firstItem (.array [] :: frames) (v.tokens ++ rest) =
      build .value (.array [] :: frames) (v.tokens ++ rest) := by
  cases v <;> rfl

mutual

/-- **The tokens of a value make its document.** The induction is over the value, with any frames
open around it and any tokens behind it. -/
theorem build_tokens (v : Json) (frames : List Frame) (rest : List Token) :
    build .value frames (v.tokens ++ rest) = resume v.toDocument frames rest := by
  match v with
  | .null => rfl
  | .bool value => rfl
  | .number value => rfl
  | .string text => rfl
  | .array [] => rfl
  | .object [] => rfl
  | .array (item :: more) =>
    have hitems := build_itemTokens (item :: more) (List.cons_ne_nil _ _) [] frames rest
    have hfirst : build .firstItem (.array [] :: frames) (itemTokens (item :: more) ++ rest) =
        build .value (.array [] :: frames) (itemTokens (item :: more) ++ rest) := by
      cases more <;> simp only [itemTokens, List.append_assoc] <;> exact build_firstItem_tokens ..
    exact hfirst.trans hitems
  | .object (member :: more) =>
    have hmembers := build_memberTokens (member :: more) (List.cons_ne_nil _ _) [] frames rest
    have hfirst :
        build .firstName (.object [] :: frames) (memberTokens (member :: more) ++ rest) =
          build .name (.object [] :: frames) (memberTokens (member :: more) ++ rest) := by
      cases more <;> rfl
    exact hfirst.trans hmembers

theorem build_itemTokens (items : List Json) (hne : items ≠ []) (before : List Document)
    (frames : List Frame) (rest : List Token) :
    build .value (.array before :: frames) (itemTokens items ++ rest) =
      resume (.array (before.reverse ++ itemDocuments items)) frames rest := by
  match items, hne with
  | [item], _ =>
    simp only [itemTokens, List.append_assoc, List.cons_append, List.nil_append]
    rw [build_tokens item]
    show resume (.array (item.toDocument :: before).reverse) frames rest = _
    rw [List.reverse_cons]
    rfl
  | item :: next :: more, _ =>
    simp only [itemTokens, List.append_assoc, List.cons_append]
    rw [build_tokens item]
    show build .value (.array (item.toDocument :: before) :: frames)
      (itemTokens (next :: more) ++ rest) = _
    rw [build_itemTokens (next :: more) (List.cons_ne_nil _ _), List.reverse_cons,
      List.append_assoc]
    rfl

theorem build_memberTokens (members : List (String × Json)) (hne : members ≠ [])
    (before : List (Document × Document)) (frames : List Frame) (rest : List Token) :
    build .name (.object before :: frames) (memberTokens members ++ rest) =
      resume (.object (before.reverse ++ memberDocuments members)) frames rest := by
  match members, hne with
  | [(name, value)], _ =>
    simp only [memberTokens, List.append_assoc, List.cons_append, List.nil_append]
    -- Behind the name and its colon the value is due.
    show build .value (.member before (.scalar (.string (some name))) :: frames)
      (value.tokens ++ .endObject :: rest) = _
    rw [build_tokens value]
    show resume (.object ((.scalar (.string (some name)), value.toDocument) :: before).reverse)
      frames rest = _
    rw [List.reverse_cons]
    rfl
  | (name, value) :: next :: more, _ =>
    simp only [memberTokens, List.append_assoc, List.cons_append]
    show build .value (.member before (.scalar (.string (some name))) :: frames)
      (value.tokens ++ .comma :: (memberTokens (next :: more) ++ rest)) = _
    rw [build_tokens value]
    show build .name (.object ((.scalar (.string (some name)), value.toDocument) :: before) ::
      frames) (memberTokens (next :: more) ++ rest) = _
    rw [build_memberTokens (next :: more) (List.cons_ne_nil _ _), List.reverse_cons,
      List.append_assoc]
    rfl

end

/-! ### Texts -/

theorem ofText_of_reads {text : List Char} {v : Json} (h : Token.Reads text v.tokens) :
    ofText (String.ofList text) = (v.toDocument, []) := by
  have hscan : Token.scan text = v.tokens := by
    have hend := h [] (fun c hc => by cases hc)
    rw [List.append_nil, Token.scan, List.append_nil] at hend
    exact hend
  have hbuild := build_tokens v [] []
  rw [List.append_nil] at hbuild
  rw [ofText, String.toList_ofList, hscan, hbuild]
  rfl

/-- **A printed value is read as its document.** -/
theorem ofText_render {v : Json} (hv : v.IsExact) : ofText v.render = (v.toDocument, []) :=
  ofText_of_reads (Token.reads_chars v hv)

theorem ofText_renderIndented {v : Json} (hv : v.IsExact) :
    ofText v.renderIndented = (v.toDocument, []) :=
  ofText_of_reads (Token.reads_indentedChars v hv 0)

end Document

end Remit.Json
