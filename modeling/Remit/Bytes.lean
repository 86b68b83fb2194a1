/-!
# Byte strings

Everything that is hashed, signed or written to a file is a plain list of bytes. A list keeps
concatenation, and with it every question of the kind "can these two inputs be the same bytes",
inside the theory of lists. Digests, keys and signatures have their length in their type.

## Main statements

* `Bytes.toText?_ofText`: the UTF-8 bytes of a text spell the text.
* `Bytes.ofText_injective`: different texts have different UTF-8 bytes.
* `Bytes.bigEndian32_injective`: different words have different bytes.
* `Bytes.ofLength?_eq_some_iff`: a byte string is cut to a fixed length only if it has it already.
-/

namespace Remit

/-- A byte string of any length. -/
abbrev Bytes := List UInt8

/-- A byte string of exactly `n` bytes. -/
abbrev FixedBytes (n : Nat) := Vector UInt8 n

/-- What holds of the bytes 0 to 255, tried one by one, holds of every byte. -/
theorem forall_byte {p : UInt8 → Prop} (h : ∀ n : Fin 256, p (UInt8.ofFin n)) (byte : UInt8) :
    p byte :=
  h byte.toFin

namespace Bytes

/-! ### Texts -/

/-- The UTF-8 bytes of a text. -/
def ofText (text : String) : Bytes := text.toUTF8.data.toList

/-- The number of UTF-8 bytes of a text. -/
def utf8Length : List Char → Nat
  | [] => 0
  | c :: rest => c.utf8Size + utf8Length rest

/-- The text that the bytes spell in UTF-8, if they spell one. -/
def toText? (bytes : Bytes) : Option String := String.fromUTF8? ⟨bytes.toArray⟩

theorem toText?_ofText (text : String) : toText? (ofText text) = some text := by
  have h : (⟨(ofText text).toArray⟩ : ByteArray) = text.toUTF8 := by
    unfold ofText
    rw [Array.toArray_toList]
  rw [toText?, h, String.toUTF8_eq_toByteArray, String.fromUTF8?, dif_pos text.isValidUTF8]
  rfl

theorem ofText_injective {a b : String} (h : ofText a = ofText b) : a = b := by
  apply String.toByteArray_inj.1
  apply ByteArray.ext
  exact Array.toList_inj.1 (by simpa [ofText] using h)

/-! ### Numbers -/

/-- The four bytes of a word, most significant first. -/
def bigEndian32 (word : UInt32) : Bytes :=
  [(word >>> 24).toUInt8, (word >>> 16).toUInt8, (word >>> 8).toUInt8, word.toUInt8]

@[simp] theorem length_bigEndian32 (word : UInt32) : (bigEndian32 word).length = 4 := rfl

/-- The number whose base-256 digits are the bytes, least significant first. -/
def toNatLE (bytes : Bytes) : Nat := bytes.foldr (fun byte n => byte.toNat + 256 * n) 0

theorem toNatLE_reverse_bigEndian32 (word : UInt32) :
    toNatLE (bigEndian32 word).reverse = word.toNat := by
  have hlt : word.toNat < 2 ^ 32 := word.toNat_lt
  have hshift (count : Nat) : word.toNat >>> count = word.toNat / 2 ^ count :=
    Nat.shiftRight_eq_div_pow _ _
  show word.toUInt8.toNat + 256 * ((word >>> 8).toUInt8.toNat +
    256 * ((word >>> 16).toUInt8.toNat + 256 * ((word >>> 24).toUInt8.toNat + 256 * 0))) = _
  simp only [UInt32.toNat_toUInt8, UInt32.toNat_shiftRight, hshift]
  have h8 : UInt32.toNat 8 % 32 = 8 := rfl
  have h16 : UInt32.toNat 16 % 32 = 16 := rfl
  have h24 : UInt32.toNat 24 % 32 = 24 := rfl
  rw [h8, h16, h24]
  omega

theorem bigEndian32_injective {a b : UInt32} (h : bigEndian32 a = bigEndian32 b) : a = b := by
  have hdigits := congrArg (fun bytes => toNatLE bytes.reverse) h
  simp only [toNatLE_reverse_bigEndian32] at hdigits
  exact UInt32.toNat_inj.1 hdigits

/-- The lowest `count` base-256 digits of a number, least significant first. -/
def ofNatLE : (count n : Nat) → Bytes
  | 0, _ => []
  | count + 1, n => UInt8.ofNat n :: ofNatLE count (n / 256)

/-! ### Blocks -/

/-- The bytes cut into blocks of the given size; the last one may be shorter. -/
def blocks (size : Nat) (bytes : Bytes) : List Bytes :=
  if _h : size = 0 ∨ bytes = [] then []
  else bytes.take size :: blocks size (bytes.drop size)
termination_by bytes.length
decreasing_by
  have h := not_or.1 ‹¬(size = 0 ∨ bytes = [])›
  have := List.length_pos_iff.2 h.2
  simp only [List.length_drop]; omega

/-! ### Fixed lengths -/

/-- The bytes as a string of exactly `n` bytes, if there are that many. -/
def ofLength? (n : Nat) (bytes : Bytes) : Option (FixedBytes n) :=
  if h : bytes.length = n then some ⟨bytes.toArray, by simpa using h⟩ else none

theorem ofLength?_eq_some_iff {n : Nat} {bytes : Bytes} {v : FixedBytes n} :
    ofLength? n bytes = some v ↔ bytes = v.toList := by
  constructor
  · intro h
    unfold ofLength? at h
    split at h
    · cases h; simp
    · cases h
  · rintro rfl
    have h : v.toList.length = n := by simp
    simp only [ofLength?, h, dite_true, Option.some.injEq]
    exact Vector.toList_inj.1 (by simp)

theorem ofLength?_eq_none_iff {n : Nat} {bytes : Bytes} :
    ofLength? n bytes = none ↔ bytes.length ≠ n := by
  unfold ofLength?
  split <;> simp_all

@[simp] theorem ofLength?_toList {n : Nat} (v : FixedBytes n) :
    ofLength? n v.toList = some v :=
  ofLength?_eq_some_iff.2 rfl

end Bytes

end Remit
