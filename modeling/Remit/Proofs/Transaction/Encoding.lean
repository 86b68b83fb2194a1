import Remit.Proofs.Transaction.Rules

/-!
# The signing text is unambiguous

The fields of a transfer are joined by colons, with nothing that says how long each of them is. For
arbitrary texts that loses where one field ends and the next begins. It does not for a transfer
whose addresses and amounts can be read: none of the characters that are allowed there is a colon
(`WellFormed.colon_not_mem`), so the text of the fields can be taken apart again
(`WellFormed.splitOn_fieldText`), whichever spellings were chosen.

The text of the fields starts with a hexadecimal digit and the signing text with a letter that is
none, so what is digested for an id is never what is signed (`fieldText_ne_signingText`).

`encoding_unambiguous` puts these together, with what they mean for two accepted transfers that
carry one signature.
-/

namespace Remit

/-! ### No field has a colon -/

theorem Hex.HasValue.ne_colon {c : Char} {value : Nat} (h : HasValue c value) : c ≠ ':' := by
  rintro rfl
  cases h.digitValue?

theorem Hex.Denotes.colon_not_mem {text : String} {bytes : Bytes} (h : Denotes text bytes) :
    ':' ∉ text.toList := by
  obtain ⟨digits, hdigits, hspells⟩ := h
  have hd : ':' ∉ digits := by
    intro hmem
    obtain ⟨value, hvalue⟩ := hspells.exists_hasValue ':' hmem
    exact hvalue.ne_colon rfl
  rcases hdigits with heq | heq | heq
  · rw [heq]; exact hd
  · rw [heq]; simp [hd]
  · rw [heq]; simp [hd]

/-- A text for at least one byte starts with a digit, since the mark does so too. -/
theorem Hex.Denotes.exists_head? {text : String} {bytes : Bytes} (h : Denotes text bytes)
    (hne : bytes ≠ []) : ∃ c value, text.toList.head? = some c ∧ HasValue c value := by
  obtain ⟨digits, hdigits, hspells⟩ := h
  rcases hdigits with heq | heq | heq
  · cases hspells with
    | nil => exact absurd rfl hne
    | cons hc _ _ => exact ⟨_, _, by rw [heq]; rfl, hc⟩
  · exact ⟨'0', 0, by rw [heq]; rfl, by decide⟩
  · exact ⟨'0', 0, by rw [heq]; rfl, by decide⟩

theorem Decimal.IsNumeral.colon_not_mem {text : List Char} (h : IsNumeral text) : ':' ∉ text := by
  intro hmem
  exact absurd (h.2 ':' hmem).2 (by decide)

theorem Decimal.colon_not_mem_toString (n : Nat) : ':' ∉ (toString n).toList := by
  rw [toString_eq_digits, String.toList_ofList]
  intro hmem
  exact absurd (isDigit_of_mem_digits hmem) (by decide)

namespace Transfer

/-- Addresses and amounts can be read, each in any spelling. -/
structure WellFormed (t : Transfer) : Prop where
  sender : ∃ address, Identifier.parse .account t.sender = .ok address
  recipient : ∃ address, Identifier.parse .account t.recipient = .ok address
  amount : ∃ amount, Amount.parseWei t.amount = .ok amount
  fee : ∃ fee, Amount.parseWei t.fee = .ok fee

theorem WellFormed.colon_not_mem {t : Transfer} (h : t.WellFormed) :
    ∀ part ∈ t.parts, ':' ∉ part.toList := by
  obtain ⟨sender, hsender⟩ := h.sender
  obtain ⟨recipient, hrecipient⟩ := h.recipient
  rw [Identifier.parse_eq_ok_iff_denotes] at hsender hrecipient
  have hamount := (Amount.exists_parseWei_eq_ok_iff.1 h.amount).colon_not_mem
  have hfee := (Amount.exists_parseWei_eq_ok_iff.1 h.fee).colon_not_mem
  simp only [parts, List.forall_mem_cons]
  exact ⟨hsender.colon_not_mem, hrecipient.colon_not_mem, hamount, hfee,
    Decimal.colon_not_mem_toString _, Decimal.colon_not_mem_toString _, by simp⟩

/-! ### Taking the text apart -/

/-- The colons of the text are those between the fields. -/
theorem WellFormed.splitOn_fieldText {t : Transfer} (h : t.WellFormed) :
    t.fieldText.toList.splitOn ':' = t.parts.map String.toList := by
  rw [fieldText, String.toList_intercalate]
  refine List.splitOn_intercalate ':' ?_ (by simp [parts])
  intro characters hmem
  obtain ⟨part, hpart, rfl⟩ := List.mem_map.1 hmem
  exact h.colon_not_mem part hpart

theorem word_eq_of_toString_eq {a b : UInt64} (h : toString a.toNat = toString b.toNat) :
    a = b := by
  rw [Decimal.toString_eq_digits, Decimal.toString_eq_digits, String.ofList_inj] at h
  apply UInt64.toNat_inj.1
  rw [← Decimal.value_digits a.toNat, h, Decimal.value_digits]

theorem eq_of_parts_eq {a b : Transfer} (h : a.parts = b.parts) : a = b := by
  -- Four of the parts are fields as they are, and two are words in decimal.
  obtain ⟨_, _, _, _, nonce, timestamp⟩ := a
  obtain ⟨_, _, _, _, nonce', timestamp'⟩ := b
  simp only [parts, List.cons.injEq, and_true] at h
  obtain ⟨rfl, rfl, rfl, rfl, hnonce, htimestamp⟩ := h
  obtain rfl := word_eq_of_toString_eq hnonce
  obtain rfl := word_eq_of_toString_eq htimestamp
  rfl

theorem fieldText_injOn {a b : Transfer} (ha : a.WellFormed) (hb : b.WellFormed)
    (h : a.fieldText = b.fieldText) : a = b := by
  have hparts : a.parts.map String.toList = b.parts.map String.toList := by
    rw [← ha.splitOn_fieldText, ← hb.splitOn_fieldText, h]
  exact eq_of_parts_eq ((List.map_inj_right fun _ _ => String.toList_inj.1).1 hparts)

/-! ### Fields and signing text -/

theorem WellFormed.exists_head? {t : Transfer} (h : t.WellFormed) :
    ∃ c value, t.fieldText.toList.head? = some c ∧ Hex.HasValue c value := by
  obtain ⟨sender, hsender⟩ := h.sender
  rw [Identifier.parse_eq_ok_iff_denotes] at hsender
  have hne : sender.bytes.toList ≠ [] := by
    intro hnil
    have hlength := sender.bytes.length_toList
    rw [hnil] at hlength
    cases hlength
  obtain ⟨c, value, hhead, hc⟩ := hsender.exists_head? hne
  refine ⟨c, value, ?_, hc⟩
  rw [fieldText, String.toList_intercalate]
  simp [parts, List.intercalate_cons_cons, List.head?_append, hhead]

/-- What is digested for the id of a well-formed transfer is signed for no transfer at all. -/
theorem fieldText_ne_signingText {a : Transfer} (ha : a.WellFormed) (b : Transfer) :
    a.fieldText ≠ b.signingText := by
  intro h
  obtain ⟨c, value, hhead, hc⟩ := ha.exists_head?
  -- The signing text starts with an `R`, which is no digit.
  rw [h, signingText, String.toList_append] at hhead
  obtain rfl : 'R' = c := Option.some.inj hhead
  cases hc.digitValue?

end Transfer

/-! ### Accepted transfers -/

namespace SignedTransfer

variable {S : Scheme} {policy : Option Policy} {now : UInt64} {t : SignedTransfer}

theorem wellFormed_of_check_eq_ok (h : t.check S policy now = .ok ()) : t.data.WellFormed := by
  obtain ⟨hsender, hrecipient, hamount, hfee, -⟩ := keeps_of_check_eq_ok h
  exact ⟨Identifier.exists_parse_eq_ok_iff.2 hsender,
    Identifier.exists_parse_eq_ok_iff.2 hrecipient, Amount.exists_parseWei_eq_ok_iff.2 hamount,
    Amount.exists_parseWei_eq_ok_iff.2 hfee⟩

/-- The one signature that an accepted transfer carries, and what it verifies. -/
theorem exists_verify_of_check_eq_ok (h : t.check S policy now = .ok ()) :
    ∃ (key : FixedBytes 32) (signature : FixedBytes 64),
      Hex.decode t.publicKey = .ok key.toList ∧ Hex.decode t.signature = .ok signature.toList ∧
        S.verify key t.data.signingBytes signature = true := by
  obtain ⟨-, -, -, -, -, -, key, signature, hkey, hsignature, hverify⟩ := keeps_of_check_eq_ok h
  exact ⟨key, signature, Hex.decode_eq_ok_iff.2 hkey, Hex.decode_eq_ok_iff.2 hsignature, hverify⟩

/-- One signature under one key that two accepted transfers carry, in whatever spellings, verifies
what each of them says. -/
theorem exists_verify_both {u : SignedTransfer} {policy' : Option Policy} {now' : UInt64}
    (ht : t.check S policy now = .ok ()) (hu : u.check S policy' now' = .ok ())
    (hkeys : Hex.decode t.publicKey = Hex.decode u.publicKey)
    (hsignatures : Hex.decode t.signature = Hex.decode u.signature) :
    ∃ (key : FixedBytes 32) (signature : FixedBytes 64),
      Hex.decode t.publicKey = .ok key.toList ∧ Hex.decode t.signature = .ok signature.toList ∧
        S.verify key t.data.signingBytes signature = true ∧
        S.verify key u.data.signingBytes signature = true := by
  obtain ⟨key, signature, hk, hs, hverify⟩ := exists_verify_of_check_eq_ok ht
  obtain ⟨key', signature', hk', hs', hverify'⟩ := exists_verify_of_check_eq_ok hu
  rw [← hkeys, hk, Except.ok.injEq, Vector.toList_inj] at hk'
  rw [← hsignatures, hs, Except.ok.injEq, Vector.toList_inj] at hs'
  subst hk' hs'
  exact ⟨key, signature, hk, hs, hverify, hverify'⟩

end SignedTransfer

/-- **The encoding is unambiguous.** For well-formed transfers the signing text determines all
fields as they are written, and so do the bytes that are digested for the id, which are signed for
no transfer. Different transfers with one id are therefore a collision of the hash, and two accepted
transfers with one public key and one signature are the same transfer, or the signature belongs to
two messages. -/
theorem Transfer.encoding_unambiguous :
    (∀ a b : Transfer, a.WellFormed → b.WellFormed → a.signingText = b.signingText → a = b) ∧
    (∀ a b : Transfer, a.WellFormed → b.WellFormed →
      Bytes.ofText a.fieldText = Bytes.ofText b.fieldText → a = b) ∧
    (∀ a b : Transfer, a.WellFormed → Bytes.ofText a.fieldText ≠ b.signingBytes) ∧
    (∀ (S : Scheme) (a b : Transfer), a.WellFormed → b.WellFormed → a.id S = b.id S → a ≠ b →
      Bytes.ofText a.fieldText ≠ Bytes.ofText b.fieldText ∧
        S.hash (Bytes.ofText a.fieldText) = S.hash (Bytes.ofText b.fieldText)) ∧
    ∀ (S : Scheme) (policy policy' : Option Policy) (now now' : UInt64) (t u : SignedTransfer),
      t.check S policy now = .ok () → u.check S policy' now' = .ok () →
      Hex.decode t.publicKey = Hex.decode u.publicKey →
      Hex.decode t.signature = Hex.decode u.signature →
      t.data = u.data ∨
        ∃ (key : FixedBytes 32) (signature : FixedBytes 64),
          Hex.decode t.publicKey = .ok key.toList ∧ Hex.decode t.signature = .ok signature.toList ∧
            t.data.signingBytes ≠ u.data.signingBytes ∧
            S.verify key t.data.signingBytes signature = true ∧
            S.verify key u.data.signingBytes signature = true := by
  refine ⟨?_, ?_, ?_, ?_, ?_⟩
  · intro a b ha hb h
    exact fieldText_injOn ha hb (signingText_eq_iff.1 h)
  · intro a b ha hb h
    exact fieldText_injOn ha hb (Bytes.ofText_injective h)
  · intro a b ha h
    exact fieldText_ne_signingText ha b (Bytes.ofText_injective h)
  · intro S a b ha hb hid hne
    have hhash : S.hash (Bytes.ofText a.fieldText) = S.hash (Bytes.ofText b.fieldText) :=
      congrArg Identifier.bytes hid
    refine ⟨fun h => ?_, hhash⟩
    exact hne (fieldText_injOn ha hb (Bytes.ofText_injective h))
  · intro S policy policy' now now' t u ht hu hkeys hsignatures
    by_cases hdata : t.data = u.data
    · exact Or.inl hdata
    · obtain ⟨key, signature, hk, hs, hverify, hverify'⟩ :=
        SignedTransfer.exists_verify_both ht hu hkeys hsignatures
      refine Or.inr ⟨key, signature, hk, hs, ?_, hverify, hverify'⟩
      intro hbytes
      have htext := Bytes.ofText_injective hbytes
      exact hdata (fieldText_injOn (SignedTransfer.wellFormed_of_check_eq_ok ht)
        (SignedTransfer.wellFormed_of_check_eq_ok hu) (signingText_eq_iff.1 htext))

/-- One address in two spellings, and so two texts. -/
theorem Transfer.encoding_unambiguous_spellings :
    ∃ a b : Transfer, a.WellFormed ∧ b.WellFormed ∧
      Identifier.parse .account a.sender = Identifier.parse .account b.sender ∧
      a.signingText ≠ b.signingText := by
  have hsmall : Identifier.parse .account
      "abababababababababababababababababababababababababababababababab" =
        .ok ⟨Vector.replicate 32 0xab⟩ := by
    rfl
  have hcapital : Identifier.parse .account
      "0XABABABABABABABABABABABABABABABABABABABABABABABABABABABABABABABAB" =
        .ok ⟨Vector.replicate 32 0xab⟩ := by
    rfl
  have hrecipient : Identifier.parse .account
      "0000000000000000000000000000000000000000000000000000000000000000" =
        .ok ⟨Vector.replicate 32 0⟩ := by
    rfl
  have hamount : Amount.parseWei "10" = .ok ⟨10⟩ := by rfl
  have hfee : Amount.parseWei "1" = .ok ⟨1⟩ := by rfl
  have hs : (Transfer.mk _ _ "10" "1" 7 0).WellFormed :=
    ⟨⟨_, hsmall⟩, ⟨_, hrecipient⟩, ⟨_, hamount⟩, ⟨_, hfee⟩⟩
  have hc : (Transfer.mk _ _ "10" "1" 7 0).WellFormed :=
    ⟨⟨_, hcapital⟩, ⟨_, hrecipient⟩, ⟨_, hamount⟩, ⟨_, hfee⟩⟩
  refine ⟨_, _, hs, hc, hsmall.trans hcapital.symm, ?_⟩
  intro h
  have heq := encoding_unambiguous.1 _ _ hs hc h
  exact absurd (congrArg Transfer.sender heq) (by decide)

/-- Texts that cannot be read may run into each other. -/
example : (Transfer.mk "a:b" "c" "1" "1" 0 0).signingText =
    (Transfer.mk "a" "b:c" "1" "1" 0 0).signingText := by
  rfl

end Remit
