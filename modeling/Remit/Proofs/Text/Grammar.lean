import Mathlib.Tactic.IntervalCases
import Remit.Amount
import Remit.Keys

/-!
# What the texts of a transfer stand for

The grammars of hexadecimal and of decimal text, written down apart from the functions that read
them. A hexadecimal digit is a character of one of two rows of sixteen (`HasValue`), digits spell
bytes pair by pair (`Spells`), and a text denotes what its digits spell, with or without a mark
before them (`Denotes`). A numeral is a row of digits that is not empty (`IsNumeral`).

* `Hex.decode_eq_ok_iff`: `Hex.decode` reads exactly the texts that denote bytes, as these bytes;
* `Hex.spells_iff_map_toLower`: digits spell the bytes that are written with them in lowercase;
* `Hex.isHexText_iff`: a text denotes some `n` bytes if and only if it is an optional mark and
  `2 * n` digits;
* `Identifier.parse_eq_ok_iff_denotes`, `PublicKey.parse_eq_ok_iff_denotes` and
  `Amount.parseWei_eq_ok_iff_isNumeral`: the fields of a transfer are read by these grammars.
-/

namespace Remit.Hex

/-! ### Digits -/

/-- The digits in the order of their values, with small letters. -/
def lowercaseRow : List Char :=
  ['0', '1', '2', '3', '4', '5', '6', '7', '8', '9', 'a', 'b', 'c', 'd', 'e', 'f']

/-- The digits in the order of their values, with capital letters. -/
def uppercaseRow : List Char :=
  ['0', '1', '2', '3', '4', '5', '6', '7', '8', '9', 'A', 'B', 'C', 'D', 'E', 'F']

/-- The character is the digit with the given value. -/
def HasValue (c : Char) (value : Nat) : Prop :=
  lowercaseRow[value]? = some c ∨ uppercaseRow[value]? = some c

instance (c : Char) (value : Nat) : Decidable (HasValue c value) :=
  inferInstanceAs (Decidable (_ ∨ _))

theorem HasValue.lt {c : Char} {value : Nat} (h : HasValue c value) : value < 16 := by
  rcases h with h | h
  · exact (List.getElem?_eq_some_iff.1 h).1
  · exact (List.getElem?_eq_some_iff.1 h).1

theorem toNat_lt_of_digitValue? {c : Char} {value : UInt8} (h : digitValue? c = some value) :
    c.toNat < 128 := by
  unfold digitValue? at h
  split at h
  · rename_i hr
    have : c.toNat ≤ 57 := hr.2
    omega
  · split at h
    · rename_i hr
      have : c.toNat ≤ 102 := hr.2
      omega
    · split at h
      · rename_i hr
        have : c.toNat ≤ 70 := hr.2
        omega
      · cases h

theorem hasValue_of_digitValue? {c : Char} {value : UInt8} (h : digitValue? c = some value) :
    HasValue c value.toNat := by
  -- Digits are ASCII, so there are only 128 characters to look at.
  have table : ∀ n : Fin 128, ∀ v ∈ digitValue? (Char.ofNat n),
      HasValue (Char.ofNat n) v.toNat := by
    decide +kernel
  have hc := table ⟨c.toNat, toNat_lt_of_digitValue? h⟩ value
  rw [Char.ofNat_toNat] at hc
  exact hc h

theorem HasValue.digitValue? {c : Char} {value : Nat} (h : HasValue c value) :
    digitValue? c = some (UInt8.ofNat value) := by
  have hlt := h.lt
  interval_cases value <;> rcases h with h | h <;> obtain rfl := Option.some.inj h <;> rfl

theorem HasValue.utf8Size {c : Char} {value : Nat} (h : HasValue c value) : c.utf8Size = 1 := by
  have hlt := toNat_lt_of_digitValue? h.digitValue?
  rw [Char.utf8Size_eq_one_iff, UInt32.le_iff_toNat_le]
  exact Nat.le_of_lt_succ hlt

theorem HasValue.ne_mark {c : Char} {value : Nat} (h : HasValue c value) :
    c ≠ 'x' ∧ c ≠ 'X' := by
  refine ⟨?_, ?_⟩ <;> rintro rfl <;> cases h.digitValue?

/-- The two halves of a byte, put together by shifting, are the byte with these two digits. -/
theorem shift_or_eq {high low : Nat} (hh : high < 16) (hl : low < 16) :
    UInt8.ofNat high <<< 4 ||| UInt8.ofNat low = UInt8.ofNat (16 * high + low) := by
  have table : ∀ h l : Fin 16,
      UInt8.ofNat h <<< 4 ||| UInt8.ofNat l = UInt8.ofNat (16 * h + l) := by
    decide +kernel
  exact table ⟨high, hh⟩ ⟨low, hl⟩

/-! ### Rows of digits -/

/-- The digits spell the bytes: two digits a byte, the one for the sixteens first. -/
inductive Spells : List Char → Bytes → Prop
  | nil : Spells [] []
  | cons {c d : Char} {high low : Nat} {digits : List Char} {bytes : Bytes}
      (hc : HasValue c high) (hd : HasValue d low) (rest : Spells digits bytes) :
      Spells (c :: d :: digits) (UInt8.ofNat (16 * high + low) :: bytes)

theorem Spells.decodeDigits {digits : List Char} {bytes : Bytes} (h : Spells digits bytes)
    (position : Nat) : decodeDigits position digits = .ok bytes := by
  induction h generalizing position with
  | nil => rfl
  | cons hc hd _ ih =>
    rw [Hex.decodeDigits]
    simp only [hc.digitValue?, hd.digitValue?, ih]
    rw [shift_or_eq hc.lt hd.lt]

theorem spells_of_decodeDigits {digits : List Char} {position : Nat} {bytes : Bytes}
    (h : decodeDigits position digits = .ok bytes) : Spells digits bytes := by
  -- Bytes come out in two cases only: no digits, and two digits before a rest that can be read.
  fun_induction Hex.decodeDigits position digits generalizing bytes with
  | case1 => cases h; exact .nil
  | case2 => cases h
  | case3 => cases h
  | case4 => cases h
  | case5 => cases h
  | case6 position c d rest low high hlow hhigh tail htail ih =>
    cases h
    have hc := hasValue_of_digitValue? hhigh
    have hd := hasValue_of_digitValue? hlow
    have hbyte := shift_or_eq hc.lt hd.lt
    rw [UInt8.ofNat_toNat, UInt8.ofNat_toNat] at hbyte
    rw [hbyte]
    exact .cons hc hd (ih htail)
  | case7 => cases h

theorem Spells.length_eq {digits : List Char} {bytes : Bytes} (h : Spells digits bytes) :
    digits.length = 2 * bytes.length := by
  induction h with
  | nil => rfl
  | cons _ _ _ ih =>
    simp only [List.length_cons, ih]
    omega

theorem Spells.utf8Length {digits : List Char} {bytes : Bytes} (h : Spells digits bytes) :
    Bytes.utf8Length digits = 2 * bytes.length := by
  induction h with
  | nil => rfl
  | cons hc hd _ ih =>
    simp only [Bytes.utf8Length, hc.utf8Size, hd.utf8Size, ih, List.length_cons]
    omega

theorem Spells.exists_hasValue {digits : List Char} {bytes : Bytes} (h : Spells digits bytes) :
    ∀ c ∈ digits, ∃ value, HasValue c value := by
  induction h with
  | nil => intro c hc; cases hc
  | cons hc hd _ ih =>
    intro e he
    rcases List.mem_cons.1 he with rfl | he
    · exact ⟨_, hc⟩
    · rcases List.mem_cons.1 he with rfl | he
      · exact ⟨_, hd⟩
      · exact ih e he

theorem exists_spells {n : Nat} {digits : List Char} (hlength : digits.length = 2 * n)
    (h : ∀ c ∈ digits, ∃ value, HasValue c value) :
    ∃ bytes : FixedBytes n, Spells digits bytes.toList := by
  induction n generalizing digits with
  | zero =>
    obtain rfl := List.length_eq_zero_iff.1 hlength
    exact ⟨#v[], .nil⟩
  | succ n ih =>
    -- The number of digits is even, so the first comes with a second.
    match digits, hlength with
    | c :: d :: digits, hlength =>
      obtain ⟨high, hc⟩ := h c (by simp)
      obtain ⟨low, hd⟩ := h d (by simp)
      have hrest : digits.length = 2 * n := by
        simp only [List.length_cons] at hlength
        omega
      obtain ⟨bytes, hbytes⟩ := ih hrest fun e he => h e (by simp [he])
      refine ⟨⟨(UInt8.ofNat (16 * high + low) :: bytes.toList).toArray, by simp⟩, ?_⟩
      exact .cons hc hd hbytes

/-- No mark is taken off a row of digits: what follows a first zero is a digit and no `x`. -/
theorem Spells.dropMark {digits : List Char} {bytes : Bytes} (h : Spells digits bytes) :
    dropMark digits = digits := by
  cases h with
  | nil => rfl
  | cons hc hd _ =>
    unfold Hex.dropMark
    split
    · rename_i heq
      simp only [List.cons.injEq] at heq
      exact absurd heq.2.1 hd.ne_mark.1
    · rename_i heq
      simp only [List.cons.injEq] at heq
      exact absurd heq.2.1 hd.ne_mark.2
    · rfl

/-! ### Either case -/

theorem hasValue_iff_toLower {c : Char} {value : Nat} (hlt : value < 16) :
    HasValue c value ↔ c.toLower = digit (UInt8.ofNat value) := by
  constructor
  · intro h
    interval_cases value <;> rcases h with h | h <;> obtain rfl := Option.some.inj h <;> rfl
  · intro h
    -- Only ASCII has capitals, and all digits are ASCII, so there are only 128 characters to try.
    have hc : c.toNat < 128 := by
      by_cases hupper : c.val ≥ 'A'.val ∧ c.val ≤ 'Z'.val
      · have hle : c.toNat ≤ 90 := hupper.2
        omega
      · have hsame : c.toLower = c := dif_neg hupper
        rw [hsame] at h
        have table : ∀ v : Fin 16, (digit (UInt8.ofNat v)).toNat < 128 := by
          decide +kernel
        rw [h]
        exact table ⟨value, hlt⟩
    have table : ∀ n : Fin 128, ∀ v : Fin 16,
        (Char.ofNat n).toLower = digit (UInt8.ofNat v) → HasValue (Char.ofNat n) v := by
      decide +kernel
    have hn := table ⟨c.toNat, hc⟩ ⟨value, hlt⟩
    rw [Char.ofNat_toNat] at hn
    exact hn h

theorem digitPair_eq {high low : Nat} (hh : high < 16) (hl : low < 16) :
    digitPair (UInt8.ofNat (16 * high + low)) =
      [digit (UInt8.ofNat high), digit (UInt8.ofNat low)] := by
  have table : ∀ h l : Fin 16, digitPair (UInt8.ofNat (16 * h + l)) =
      [digit (UInt8.ofNat h), digit (UInt8.ofNat l)] := by
    decide +kernel
  exact table ⟨high, hh⟩ ⟨low, hl⟩

/-- Digits spell what is written with them in lowercase. -/
theorem spells_iff_map_toLower {digits : List Char} {bytes : Bytes} :
    Spells digits bytes ↔ digits.map Char.toLower = encodeDigits bytes := by
  constructor
  · intro h
    induction h with
    | nil => rfl
    | @cons c d high low digits bytes hc hd _ ih =>
      have hcons : encodeDigits (UInt8.ofNat (16 * high + low) :: bytes) =
          digitPair (UInt8.ofNat (16 * high + low)) ++ encodeDigits bytes := rfl
      rw [hcons, digitPair_eq hc.lt hd.lt, List.map_cons, List.map_cons, ih,
        (hasValue_iff_toLower hc.lt).1 hc, (hasValue_iff_toLower hd.lt).1 hd]
      rfl
  · intro h
    induction bytes generalizing digits with
    | nil =>
      rw [List.map_eq_nil_iff.1 h]
      exact .nil
    | cons byte bytes ih =>
      have hpair : encodeDigits (byte :: bytes) = digitPair byte ++ encodeDigits bytes := rfl
      have hlength : digits.length = 2 + (encodeDigits bytes).length := by
        rw [← List.length_map (f := Char.toLower), h, hpair, List.length_append]
        rfl
      match digits, hlength with
      | [c], hlength =>
        rw [List.length_singleton] at hlength
        omega
      | c :: d :: digits, _ =>
      -- The byte is its two halves again.
      have hbyte : byte = UInt8.ofNat (16 * (byte.toNat / 16) + byte.toNat % 16) := by
        rw [Nat.div_add_mod, UInt8.ofNat_toNat]
      have hhigh : byte.toNat / 16 < 16 := by
        have hlt := byte.toNat_lt
        omega
      have hlow : byte.toNat % 16 < 16 := Nat.mod_lt _ (by decide)
      rw [hpair, hbyte, digitPair_eq hhigh hlow, List.map_cons, List.map_cons, List.cons_append,
        List.cons_append, List.nil_append, List.cons.injEq, List.cons.injEq] at h
      obtain ⟨hc, hd, hrest⟩ := h
      rw [hbyte]
      exact .cons ((hasValue_iff_toLower hhigh).2 hc) ((hasValue_iff_toLower hlow).2 hd) (ih hrest)

/-! ### Texts -/

/-- The text is these characters, or `0x` or `0X` and these characters. -/
def HasDigits (text : String) (digits : List Char) : Prop :=
  text.toList = digits ∨ text.toList = '0' :: 'x' :: digits ∨ text.toList = '0' :: 'X' :: digits

/-- The text is a spelling of the bytes. -/
def Denotes (text : String) (bytes : Bytes) : Prop :=
  ∃ digits, HasDigits text digits ∧ Spells digits bytes

theorem hasDigits_dropMark (text : String) : HasDigits text (dropMark text.toList) := by
  unfold dropMark HasDigits
  split
  · right; left; assumption
  · right; right; assumption
  · left; rfl

/-- **The reader and the grammar agree**, on the texts that are read and on what they are
read as. -/
theorem decode_eq_ok_iff {text : String} {bytes : Bytes} :
    decode text = .ok bytes ↔ Denotes text bytes := by
  constructor
  · intro h
    unfold decode at h
    dsimp only at h
    split at h
    · cases h
    · exact ⟨_, hasDigits_dropMark text, spells_of_decodeDigits h⟩
  · rintro ⟨digits, hdigits, h⟩
    have hdrop : dropMark text.toList = digits := by
      rcases hdigits with heq | heq | heq
      · rw [heq, h.dropMark]
      · rw [heq]; rfl
      · rw [heq]; rfl
    -- The reader measures the text in bytes, and every digit is one byte long.
    have heven : Bytes.utf8Length digits % 2 = 0 := by
      rw [h.utf8Length]; omega
    simp [decode, hdrop, heven, h.decodeDigits]

theorem decodeExactly_eq_ok_iff {n : Nat} {text : String} {bytes : FixedBytes n} :
    decodeExactly n text = .ok bytes ↔ Denotes text bytes.toList := by
  rw [← decode_eq_ok_iff]
  unfold decodeExactly
  cases h : decode text with
  | error e => simp [bind, Except.bind]
  | ok all =>
    rw [Except.ok.injEq, ← Bytes.ofLength?_eq_some_iff]
    cases h' : Bytes.ofLength? n all <;> simp [bind, Except.bind, h']

theorem Denotes.unique {text : String} {a b : Bytes} (ha : Denotes text a) (hb : Denotes text b) :
    a = b := by
  rw [← decode_eq_ok_iff] at ha hb
  rw [ha] at hb
  exact Except.ok.inj hb

/-- The text is the given number of digits, possibly behind a mark. -/
def IsHexText (count : Nat) (text : String) : Prop :=
  ∃ digits, HasDigits text digits ∧ digits.length = count ∧ ∀ c ∈ digits, ∃ value, HasValue c value

theorem isHexText_iff {n : Nat} {text : String} :
    IsHexText (2 * n) text ↔ ∃ bytes : FixedBytes n, Denotes text bytes.toList := by
  constructor
  · rintro ⟨digits, htext, hlength, h⟩
    obtain ⟨bytes, hbytes⟩ := exists_spells hlength h
    exact ⟨bytes, digits, htext, hbytes⟩
  · rintro ⟨bytes, digits, htext, h⟩
    refine ⟨digits, htext, ?_, h.exists_hasValue⟩
    rw [h.length_eq, Vector.length_toList]

end Remit.Hex

namespace Remit

/-! ### Numerals -/

/-- One or more of the digits `0` to `9`, and nothing else. -/
def Decimal.IsNumeral (text : List Char) : Prop :=
  text ≠ [] ∧ ∀ c ∈ text, '0' ≤ c ∧ c ≤ '9'

theorem Decimal.natural?_eq_some_iff_isNumeral {text : List Char} {n : Nat} :
    natural? text = some n ↔ IsNumeral text ∧ n = value text := by
  have hdigit : ∀ c : Char, c.isDigit = true ↔ '0' ≤ c ∧ c ≤ '9' := by
    intro c
    rw [Char.isDigit, Bool.and_eq_true, decide_eq_true_eq, decide_eq_true_eq]
    rfl
  rw [natural?_eq_some_iff]
  simp only [hdigit, IsNumeral, and_assoc, eq_comm]

/-! ### Fields -/

theorem Identifier.parse_eq_ok_iff_denotes {kind : Identifier.Kind} {text : String}
    {id : Identifier kind} :
    parse kind text = .ok id ↔ Hex.Denotes text id.bytes.toList := by
  rw [parse_eq_ok_iff, Hex.decodeExactly_eq_ok_iff]

theorem Identifier.exists_parse_eq_ok_iff {kind : Identifier.Kind} {text : String} :
    (∃ id, parse kind text = .ok id) ↔ Hex.IsHexText 64 text := by
  simp only [parse_eq_ok_iff_denotes]
  rw [Hex.isHexText_iff (n := 32)]
  constructor
  · rintro ⟨id, h⟩
    exact ⟨id.bytes, h⟩
  · rintro ⟨bytes, h⟩
    exact ⟨⟨bytes⟩, h⟩

theorem PublicKey.parse_eq_ok_iff_denotes {text : String} {key : PublicKey} :
    parse text = .ok key ↔ Hex.Denotes text key.bytes.toList := by
  rw [← Hex.decodeExactly_eq_ok_iff]
  unfold parse
  cases Hex.decodeExactly 32 text with
  | ok bytes => cases key; simp
  | error e => simp

theorem Amount.parseWei_eq_ok_iff_isNumeral {text : String} {amount : Amount} :
    parseWei text = .ok amount ↔
      Decimal.IsNumeral text.toList ∧ amount = ⟨Decimal.value text.toList⟩ := by
  rw [parseWei_eq_ok_iff, Decimal.natural?_eq_some_iff_isNumeral]
  cases amount
  simp

theorem Amount.exists_parseWei_eq_ok_iff {text : String} :
    (∃ amount, parseWei text = .ok amount) ↔ Decimal.IsNumeral text.toList := by
  simp only [parseWei_eq_ok_iff_isNumeral]
  constructor
  · rintro ⟨amount, h, -⟩
    exact h
  · intro h
    exact ⟨_, h, rfl⟩

end Remit
