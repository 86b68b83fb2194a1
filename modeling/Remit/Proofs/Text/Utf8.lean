import Mathlib.Data.List.Basic
import Remit.Bytes

/-!
# Parts of UTF-8 texts

The bytes of a character are not the start of the bytes of another one, so bytes that a text starts
with and that spell a text themselves spell characters that the text starts with.
-/

namespace Remit.Bytes

theorem ofText_ofList (cs : List Char) :
    ofText (String.ofList cs) = cs.flatMap String.utf8EncodeChar := by
  rw [ofText, String.toUTF8_eq_toByteArray, String.toByteArray_ofList, List.utf8Encode,
    List.data_toByteArray, List.toList_toArray]

theorem ofText_eq_flatMap (text : String) :
    ofText text = text.toList.flatMap String.utf8EncodeChar := by
  rw [← ofText_ofList, String.ofList_toList]

theorem toText?_eq_some_iff {bytes : Bytes} {text : String} :
    toText? bytes = some text ↔ bytes = ofText text := by
  constructor
  · intro h
    unfold toText? String.fromUTF8? at h
    split at h
    · cases h
      show bytes = bytes.toArray.toList
      rw [List.toList_toArray]
    · cases h
  · rintro rfl
    exact toText?_ofText text

theorem utf8EncodeChar_append_inj {c d : Char} {x y : Bytes}
    (h : String.utf8EncodeChar c ++ x = String.utf8EncodeChar d ++ y) : c = d ∧ x = y := by
  have hcd : c = d := by
    have hc := @ByteArray.utf8DecodeChar?_utf8EncodeChar_append x.toByteArray c
    have hd := @ByteArray.utf8DecodeChar?_utf8EncodeChar_append y.toByteArray d
    rw [← List.toByteArray_append, h, List.toByteArray_append, hd] at hc
    exact (Option.some.inj hc).symm
  subst hcd
  exact ⟨rfl, List.append_cancel_left h⟩

/-- **A part of the bytes is a part of the text.** The induction is over the characters of the
part. -/
theorem prefix_of_flatMap_prefix {cs ds : List Char}
    (h : cs.flatMap String.utf8EncodeChar <+: ds.flatMap String.utf8EncodeChar) : cs <+: ds := by
  induction cs generalizing ds with
  | nil => exact List.nil_prefix
  | cons c cs ih =>
    obtain ⟨rest, h⟩ := h
    cases ds with
    | nil =>
      rw [List.flatMap_cons, List.flatMap_nil, List.append_assoc] at h
      exact absurd (List.append_eq_nil_iff.1 h).1 String.utf8EncodeChar_ne_nil
    | cons d ds =>
      rw [List.flatMap_cons, List.flatMap_cons, List.append_assoc] at h
      obtain ⟨rfl, hrest⟩ := utf8EncodeChar_append_inj h
      exact (List.prefix_cons_inj c).2 (ih ⟨rest, hrest⟩)

theorem toList_prefix_of_ofText_prefix {part text : String} (h : ofText part <+: ofText text) :
    part.toList <+: text.toList := by
  rw [ofText_eq_flatMap, ofText_eq_flatMap] at h
  exact prefix_of_flatMap_prefix h

end Remit.Bytes
