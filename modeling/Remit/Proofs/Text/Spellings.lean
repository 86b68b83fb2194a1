import Remit.Proofs.Text.Grammar

/-!
# Spellings of names

A name of 32 bytes has many spellings: digits of either case, with or without a mark. Six functions
read them, one of which only says whether it could, and another writes down the one spelling that
requests use. They take the same texts for the same bytes.

* `Hex.decode_eq_ok_iff_map_toLower`: bytes are read from what they are written with, in any case;
* `Address.isTaken_or_isRefused`: a text is taken by all readers for the same bytes, or by none;
* `Address.canonical_eq_ok_iff`: the one spelling of an address is how the address is written;
* `spellings_agree`: all of this, for every text.
-/

namespace Remit

/-! ### Hexadecimal text -/

namespace Hex

theorem exists_decode_eq_ok_iff {text : String} :
    (∃ bytes, decode text = .ok bytes) ↔ ∃ n, IsHexText (2 * n) text := by
  simp only [decode_eq_ok_iff, isHexText_iff]
  constructor
  · rintro ⟨bytes, h⟩
    exact ⟨bytes.length, ⟨bytes.toArray, by simp⟩, h⟩
  · rintro ⟨n, bytes, h⟩
    exact ⟨bytes.toList, h⟩

theorem decode_eq_ok_iff_map_toLower {text : String} {bytes : Bytes} :
    decode text = .ok bytes ↔
      ∃ digits, HasDigits text digits ∧ digits.map Char.toLower = (encode bytes).toList := by
  simp only [decode_eq_ok_iff, Denotes, spells_iff_map_toLower, toList_encode]

theorem length_encode (bytes : Bytes) : (encode bytes).length = 2 * bytes.length := by
  have hself : Spells (encodeDigits bytes) bytes :=
    spells_of_decodeDigits (decodeDigits_encodeDigits bytes 0)
  rw [← String.length_toList, toList_encode]
  exact hself.length_eq

theorem digit_mem_lowercaseRow (byte : UInt8) :
    digit (byte >>> 4) ∈ lowercaseRow ∧ digit (byte &&& 15) ∈ lowercaseRow :=
  forall_byte
    (p := fun b => digit (b >>> 4) ∈ lowercaseRow ∧ digit (b &&& 15) ∈ lowercaseRow)
    (by decide +kernel) byte

theorem mem_lowercaseRow_of_mem_encode {bytes : Bytes} {c : Char}
    (hc : c ∈ (encode bytes).toList) : c ∈ lowercaseRow := by
  rw [toList_encode, encodeDigits, List.mem_flatMap] at hc
  obtain ⟨byte, -, hc⟩ := hc
  obtain ⟨hhigh, hlow⟩ := digit_mem_lowercaseRow byte
  simp only [digitPair, List.mem_cons, List.not_mem_nil, or_false] at hc
  rcases hc with rfl | rfl
  · exact hhigh
  · exact hlow

end Hex

/-! ### Names of 32 bytes -/

namespace Address

/-- All readers of names take the text, and for these bytes. -/
structure IsTaken (text : String) (bytes : FixedBytes 32) : Prop where
  isValid : isValid text = true
  canonical : canonical text = .ok (Hex.encode bytes.toList)
  decoded : Hex.decodeExactly 32 text = .ok bytes
  identifier : ∀ kind, Identifier.parse kind text = .ok ⟨bytes⟩
  publicKey : PublicKey.parse text = .ok ⟨bytes⟩

/-- All readers of names refuse the text. -/
structure IsRefused (text : String) : Prop where
  isValid : isValid text = false
  canonical : canonical text = .error (.validation s!"invalid address: {text}")
  decoded : ∃ cause, Hex.decodeExactly 32 text = .error cause
  identifier : ∀ kind, Identifier.parse kind text = .error (Identifier.malformed kind text)
  publicKey : ∃ cause, PublicKey.parse text = .error (.ofHex cause)

theorem isValid_eq_true_iff {text : String} : isValid text = true ↔ Hex.IsHexText 64 text := by
  rw [Hex.isHexText_iff (n := 32)]
  unfold isValid
  constructor
  · intro h
    split at h
    · rename_i bytes hdecode
      exact ⟨⟨bytes.toArray, by simpa using h⟩, Hex.decode_eq_ok_iff.1 hdecode⟩
    · cases h
  · rintro ⟨bytes, h⟩
    rw [Hex.decode_eq_ok_iff.2 h]
    simp

theorem canonical_of_parse {text : String} {address : Address}
    (h : Identifier.parse .account text = .ok address) : canonical text = .ok address.text := by
  rw [Identifier.parse_eq_ok_iff] at h
  rw [canonical, h]
  rfl

theorem canonical_of_not_isHexText {text : String} (h : ¬ Hex.IsHexText 64 text) :
    canonical text = .error (.validation s!"invalid address: {text}") := by
  rw [Hex.isHexText_iff (n := 32)] at h
  unfold canonical
  cases hdecode : Hex.decodeExactly 32 text with
  | ok bytes => exact absurd ⟨bytes, Hex.decodeExactly_eq_ok_iff.1 hdecode⟩ h
  | error e => rfl

theorem isTaken_of_denotes {text : String} {bytes : FixedBytes 32}
    (h : Hex.Denotes text bytes.toList) : IsTaken text bytes where
  isValid := isValid_eq_true_iff.2 ((Hex.isHexText_iff (n := 32)).2 ⟨bytes, h⟩)
  canonical := by
    have hparse : Identifier.parse .account text = .ok ⟨bytes⟩ :=
      Identifier.parse_eq_ok_iff_denotes.2 h
    exact canonical_of_parse hparse
  decoded := Hex.decodeExactly_eq_ok_iff.2 h
  identifier _ := Identifier.parse_eq_ok_iff_denotes.2 h
  publicKey := PublicKey.parse_eq_ok_iff_denotes.2 h

theorem isRefused_of_not_isHexText {text : String} (h : ¬ Hex.IsHexText 64 text) :
    IsRefused text := by
  have hnone : ∃ cause, Hex.decodeExactly 32 text = .error cause := by
    rw [Hex.isHexText_iff (n := 32)] at h
    cases hdecode : Hex.decodeExactly 32 text with
    | ok bytes => exact absurd ⟨bytes, Hex.decodeExactly_eq_ok_iff.1 hdecode⟩ h
    | error cause => exact ⟨cause, rfl⟩
  obtain ⟨cause, hcause⟩ := hnone
  refine ⟨?_, canonical_of_not_isHexText h, ⟨cause, hcause⟩, fun kind => ?_, cause, ?_⟩
  · rw [← Bool.not_eq_true, isValid_eq_true_iff]
    exact h
  · rw [Identifier.parse, hcause]
  · rw [PublicKey.parse, hcause]

/-- **The readers agree**: a text is taken by all of them for the bytes that it denotes, or refused
by all of them. -/
theorem isTaken_or_isRefused (text : String) :
    (∃ bytes : FixedBytes 32, Hex.Denotes text bytes.toList ∧ IsTaken text bytes) ∨
      ¬ Hex.IsHexText 64 text ∧ IsRefused text := by
  by_cases h : Hex.IsHexText 64 text
  · obtain ⟨bytes, hbytes⟩ := (Hex.isHexText_iff (n := 32)).1 h
    exact .inl ⟨bytes, hbytes, isTaken_of_denotes hbytes⟩
  · exact .inr ⟨h, isRefused_of_not_isHexText h⟩

/-! ### The one spelling -/

theorem canonical_eq_ok_iff {text spelling : String} :
    canonical text = .ok spelling ↔
      ∃ address : Address, Identifier.parse .account text = .ok address ∧
        address.text = spelling := by
  rcases isTaken_or_isRefused text with ⟨bytes, -, htaken⟩ | ⟨-, hrefused⟩
  · rw [htaken.canonical, htaken.identifier]
    simp [Identifier.text]
  · rw [hrefused.canonical, hrefused.identifier]
    simp

/-- The one spelling of an address is a spelling of it, and its own. -/
theorem canonical_canonical (text : String) : canonical text >>= canonical = canonical text := by
  cases h : canonical text with
  | error e => rfl
  | ok spelling =>
    obtain ⟨address, -, rfl⟩ := canonical_eq_ok_iff.1 h
    exact canonical_of_parse (Identifier.parse_text address)

theorem text_injective {a b : Address} (h : a.text = b.text) : a = b := by
  have ha := Identifier.parse_text a
  rw [h, Identifier.parse_text] at ha
  exact (Except.ok.inj ha).symm

theorem exists_canonical_iff {a b : String} :
    (∃ spelling, canonical a = .ok spelling ∧ canonical b = .ok spelling) ↔
      ∃ address : Address, Identifier.parse .account a = .ok address ∧
        Identifier.parse .account b = .ok address := by
  simp only [canonical_eq_ok_iff]
  constructor
  · rintro ⟨_, ⟨x, ha, hx⟩, y, hb, hy⟩
    obtain rfl := text_injective (hx.trans hy.symm)
    exact ⟨x, ha, hb⟩
  · rintro ⟨address, ha, hb⟩
    exact ⟨address.text, ⟨address, ha, rfl⟩, address, hb, rfl⟩

end Address

/-- **Hexadecimal text and the names in it.** Reading inverts writing; exactly an even number of
digits is read, with or without one mark, as the bytes that are written with these digits in
lowercase. All readers of names take the same texts for the same 32 bytes. The one spelling of an
address is how the address is written; taking it again changes nothing; and two texts have one
spelling in common if and only if they are spellings of one address. -/
theorem spellings_agree :
    (∀ bytes, Hex.decode (Hex.encode bytes) = .ok bytes) ∧
    (∀ text, (∃ bytes, Hex.decode text = .ok bytes) ↔ ∃ n, Hex.IsHexText (2 * n) text) ∧
    (∀ text bytes, Hex.decode text = .ok bytes ↔
      ∃ digits, Hex.HasDigits text digits ∧
        digits.map Char.toLower = (Hex.encode bytes).toList) ∧
    (∀ text,
      (∃ bytes : FixedBytes 32, Hex.Denotes text bytes.toList ∧ Address.IsTaken text bytes) ∨
        ¬ Hex.IsHexText 64 text ∧ Address.IsRefused text) ∧
    (∀ text, Address.canonical text >>= Address.canonical = Address.canonical text) ∧
    (∀ text spelling, Address.canonical text = .ok spelling ↔
      ∃ address : Address, Identifier.parse .account text = .ok address ∧
        address.text = spelling) ∧
    ∀ a b, (∃ spelling, Address.canonical a = .ok spelling ∧ Address.canonical b = .ok spelling) ↔
      ∃ address : Address, Identifier.parse .account a = .ok address ∧
        Identifier.parse .account b = .ok address :=
  ⟨Hex.decode_encode, fun _ => Hex.exists_decode_eq_ok_iff,
    fun _ _ => Hex.decode_eq_ok_iff_map_toLower, Address.isTaken_or_isRefused,
    Address.canonical_canonical, fun _ _ => Address.canonical_eq_ok_iff,
    fun _ _ => Address.exists_canonical_iff⟩

/-- Only one mark is taken off. -/
example : Hex.decode "0x" = .ok [] ∧ Hex.decode "0x0xab" = .error (.notDigit 120 1) := by
  decide +kernel

end Remit
