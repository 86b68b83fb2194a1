import Remit.Proofs.Transaction.Encoding
import Remit.Proofs.Wallet.Signing

/-!
# Signed texts and signed transfers

A wallet signs a text as it stands and a transfer as its signing text, which is a text like any
other. A text that spells a transfer, tag and all, can be taken apart again (`Transfer.spelled?`),
and signing it is signing the transfer. Every other text is safe: the bytes that are signed are
those of no transfer, so its signature makes a transfer only if it verifies over two messages.

`signText_reaches_transfers` puts both halves together. That signed texts are not apart from signed
transfers is shown by `signText_forges_sample`, where a text and nothing else makes a transfer that
is accepted.
-/

namespace Remit

open Wallet (sampleScheme sampleSecret)

/-! ### Texts that spell a transfer -/

namespace Transfer

/-- Addresses and amounts can be read. -/
def isWellFormed (t : Transfer) : Bool :=
  (Identifier.parse .account t.sender).isOk && (Identifier.parse .account t.recipient).isOk &&
    (Amount.parseWei t.amount).isOk && (Amount.parseWei t.fee).isOk

/-- The transfer with these fields, the last two of which are numbers. -/
def ofParts? : List (List Char) → Option Transfer
  | [sender, recipient, amount, fee, nonce, timestamp] =>
    some ⟨.ofList sender, .ofList recipient, .ofList amount, .ofList fee,
      .ofNat (Decimal.value nonce), .ofNat (Decimal.value timestamp)⟩
  | _ => none

/-- The well-formed transfer that the text is the signing text of. -/
def spelled? (text : String) : Option Transfer :=
  (ofParts? ((text.toList.drop tag.toList.length).splitOn ':')).filter fun t =>
    t.isWellFormed && t.signingText == text

theorem isWellFormed_iff {t : Transfer} : t.isWellFormed = true ↔ t.WellFormed := by
  have hisOk {α : Type} (result : Except Error α) :
      result.isOk = true ↔ ∃ value, result = .ok value := by
    cases result <;> simp [Except.isOk, Except.toBool]
  simp only [isWellFormed, Bool.and_eq_true, hisOk]
  constructor
  · rintro ⟨⟨⟨hsender, hrecipient⟩, hamount⟩, hfee⟩
    exact ⟨hsender, hrecipient, hamount, hfee⟩
  · rintro ⟨hsender, hrecipient, hamount, hfee⟩
    exact ⟨⟨⟨hsender, hrecipient⟩, hamount⟩, hfee⟩

theorem ofParts?_parts (t : Transfer) : ofParts? (t.parts.map String.toList) = some t := by
  simp only [parts, List.map_cons, List.map_nil, ofParts?, Decimal.toString_eq_digits,
    String.toList_ofList, String.ofList_toList, Decimal.value_digits, UInt64.ofNat_toNat]

/-- **A text spells a transfer** if and only if it is what is signed for it. -/
theorem spelled?_eq_some_iff {text : String} {t : Transfer} :
    spelled? text = some t ↔ t.WellFormed ∧ text = t.signingText := by
  rw [spelled?, Option.filter_eq_some_iff, Bool.and_eq_true, isWellFormed_iff, beq_iff_eq]
  constructor
  · rintro ⟨-, hwell, hsigning⟩
    exact ⟨hwell, hsigning.symm⟩
  · rintro ⟨hwell, rfl⟩
    refine ⟨?_, hwell, rfl⟩
    rw [signingText, String.toList_append, List.drop_left, hwell.splitOn_fieldText]
    exact ofParts?_parts t

theorem spelled?_eq_none_iff {text : String} :
    spelled? text = none ↔ ∀ t : Transfer, t.WellFormed → Bytes.ofText text ≠ t.signingBytes := by
  rw [Option.eq_none_iff_forall_ne_some]
  constructor
  · intro h t hwell hbytes
    exact h t (spelled?_eq_some_iff.2 ⟨hwell, Bytes.ofText_injective hbytes⟩)
  · rintro h t hspelled
    obtain ⟨hwell, rfl⟩ := spelled?_eq_some_iff.1 hspelled
    exact h t hwell rfl

end Transfer

/-! ### Transfers made of a signed text -/

namespace Wallet

variable {S : Scheme}

/-- A transfer that carries what the wallet signed for a text. -/
def attach (wallet : Wallet S) (t : Transfer) (text : String) : SignedTransfer :=
  ⟨t, wallet.publicKey.text, wallet.signText text⟩

/-- Any transfer from the wallet to somebody else, in whatever spelling. -/
structure CanMake (wallet : Wallet S) (t : Transfer) : Prop where
  wellFormed : t.WellFormed
  sender : Identifier.parse .account t.sender = .ok wallet.address
  recipient : Identifier.parse .account t.recipient ≠ .ok wallet.address

/-- Who has the wallet sign the signing text of a transfer has the transfer. -/
theorem check_attach_signingText (hS : S.Sound) {wallet : Wallet S} {t : Transfer}
    (h : wallet.CanMake t) (now : UInt64) :
    (wallet.attach t t.signingText).check S none now = .ok () := by
  obtain ⟨recipient, hrecipient⟩ := h.wellFormed.recipient
  obtain ⟨amount, hamount⟩ := h.wellFormed.amount
  obtain ⟨fee, hfee⟩ := h.wellFormed.fee
  have hother : wallet.address ≠ recipient := by
    rintro rfl
    exact h.recipient hrecipient
  have hbound : (wallet.attach t t.signingText).bindsSender S = true := by
    rw [SignedTransfer.bindsSender_eq_true_iff]
    exact ⟨wallet.publicKey.bytes,
      PublicKey.parse_eq_ok_iff_denotes.1 (PublicKey.parse_text wallet.publicKey),
      Identifier.parse_eq_ok_iff_denotes.1 h.sender⟩
  have hauthentic : (wallet.attach t t.signingText).hasValidSignature S = true :=
    Transfer.hasValidSignature_sign hS t wallet.keys
  have hcheck := SignedTransfer.check_eq_of_parse (t := wallet.attach t t.signingText) h.sender
    hrecipient hamount hfee hbound hauthentic none now
  rw [hcheck, if_neg hother]

/-- An accepted transfer with the signature of a text has that signature verify over both. -/
theorem verify_of_check_attach {wallet : Wallet S} {t : Transfer} {text : String}
    {policy : Option Policy} {now : UInt64}
    (h : (wallet.attach t text).check S policy now = .ok ()) :
    S.verify wallet.publicKey.bytes t.signingBytes
      (S.sign wallet.keys.secret (Bytes.ofText text)) = true := by
  obtain ⟨key, signature, hkey, hsignature, hverify⟩ :=
    SignedTransfer.exists_verify_of_check_eq_ok h
  have hown : Hex.decode (wallet.attach t text).publicKey =
      .ok wallet.publicKey.bytes.toList := Hex.decode_encode _
  rw [hown, Except.ok.injEq, Vector.toList_inj] at hkey
  have hsigned : Hex.decode (wallet.attach t text).signature =
      .ok (S.sign wallet.keys.secret (Bytes.ofText text)).toList := Hex.decode_encode _
  rw [hsigned, Except.ok.injEq, Vector.toList_inj] at hsignature
  subst hkey hsignature
  exact hverify

/-- **A signed text is a signed transfer exactly if it spells one.** The bytes that are signed for
any other text are those of no well-formed transfer, and if its signature makes a transfer that is
accepted, then it verifies over two different messages. What is signed for a text that spells a
transfer is the signature of the transfer, which is accepted if it is one from the wallet to
somebody else. -/
theorem signText_reaches_transfers (hS : S.Sound) (wallet : Wallet S) (text : String) :
    ((∀ t : Transfer, t.WellFormed → Bytes.ofText text ≠ t.signingBytes) ↔
      Transfer.spelled? text = none) ∧
    (Transfer.spelled? text = none → ∀ t policy now,
      (wallet.attach t text).check S policy now = .ok () →
        Bytes.ofText text ≠ t.signingBytes ∧
          ∀ message ∈ [Bytes.ofText text, t.signingBytes],
            S.verify wallet.publicKey.bytes message
              (S.sign wallet.keys.secret (Bytes.ofText text)) = true) ∧
    ∀ t, Transfer.spelled? text = some t →
      Bytes.ofText text = t.signingBytes ∧
        wallet.signText text = (t.sign wallet.keys).signature ∧
        (wallet.CanMake t → ∀ now, (wallet.attach t text).check S none now = .ok ()) := by
  refine ⟨Transfer.spelled?_eq_none_iff.symm, fun hnone t policy now h => ?_, fun t hspelled => ?_⟩
  · have hwell : t.WellFormed := SignedTransfer.wellFormed_of_check_eq_ok h
    have hown : S.verify wallet.publicKey.bytes (Bytes.ofText text)
        (S.sign wallet.keys.secret (Bytes.ofText text)) = true := by
      rw [publicKey, wallet.keys.publicKey_eq]
      exact hS wallet.keys.secret (Bytes.ofText text)
    refine ⟨Transfer.spelled?_eq_none_iff.1 hnone t hwell, ?_⟩
    simp only [List.forall_mem_cons]
    exact ⟨hown, verify_of_check_attach h, by simp⟩
  · obtain ⟨-, rfl⟩ := Transfer.spelled?_eq_some_iff.1 hspelled
    exact ⟨rfl, rfl, fun hmake now => check_attach_signingText hS hmake now⟩

/-- The wallet of the secret key. -/
def sampleWallet : Wallet sampleScheme := ofSecret sampleScheme sampleSecret

/-- A text that somebody asks to have signed. -/
def sampleText : String :=
  "RELYO_TX:6c31041268f471609c79f5f2dbcc38e4a4ab2f4d416109a4e09fcf50fd0f0062:" ++
    "abababababababababababababababababababababababababababababababab:" ++
    "1000000000000000000000000000000:7:18446744073709551615:1700000000000"

/-- The transfer that the text spells. -/
def sampleTransfer : Transfer where
  sender := "6c31041268f471609c79f5f2dbcc38e4a4ab2f4d416109a4e09fcf50fd0f0062"
  recipient := "abababababababababababababababababababababababababababababababab"
  amount := "1000000000000000000000000000000"
  fee := "7"
  nonce := 18446744073709551615
  timestamp := 1700000000000

theorem canMake_sampleTransfer : sampleWallet.CanMake sampleTransfer := by
  have hsender : Identifier.parse .account sampleTransfer.sender = .ok sampleWallet.address := by
    rfl
  have hrecipient : Identifier.parse .account sampleTransfer.recipient =
      .ok ⟨Vector.replicate 32 0xab⟩ := by
    rfl
  have hamount : Amount.parseWei sampleTransfer.amount = .ok ⟨10 ^ 30⟩ := by rfl
  have hfee : Amount.parseWei sampleTransfer.fee = .ok ⟨7⟩ := by rfl
  refine ⟨⟨⟨_, hsender⟩, ⟨_, hrecipient⟩, ⟨_, hamount⟩, ⟨_, hfee⟩⟩, hsender, ?_⟩
  rw [hrecipient, ne_eq, Except.ok.injEq]
  decide

theorem sound_sampleScheme : sampleScheme.Sound := fun _ _ => beq_self_eq_true sampleSignature

/-- A wallet, and a transfer of more wei than fit into 64 bits. -/
theorem signText_reaches_transfers_sample :
    sampleScheme.Sound ∧ Transfer.spelled? sampleText = some sampleTransfer ∧
      sampleWallet.CanMake sampleTransfer ∧
      ∀ now, (sampleWallet.attach sampleTransfer sampleText).check sampleScheme none now =
        .ok () := by
  have hspelled : Transfer.spelled? sampleText = some sampleTransfer := by
    rw [Transfer.spelled?_eq_some_iff]
    exact ⟨canMake_sampleTransfer.wellFormed, by decide +kernel⟩
  obtain ⟨-, -, hspells⟩ :=
    signText_reaches_transfers sound_sampleScheme sampleWallet sampleText
  exact ⟨sound_sampleScheme, hspelled, canMake_sampleTransfer,
    (hspells _ hspelled).2.2 canMake_sampleTransfer⟩

/-- The wallet signs the text as it signs the transfer, and with nothing but this signature the
transfer is accepted. -/
theorem signText_forges_sample :
    sampleTransfer.WellFormed ∧ Bytes.ofText sampleText = sampleTransfer.signingBytes ∧
      (sampleWallet.attach sampleTransfer sampleText).check sampleScheme none 1700000000000 =
        .ok () := by
  have htext : sampleText = sampleTransfer.signingText := by
    decide +kernel
  refine ⟨canMake_sampleTransfer.wellFormed, congrArg Bytes.ofText htext, ?_⟩
  rw [htext]
  exact check_attach_signingText sound_sampleScheme canMake_sampleTransfer 1700000000000

end Wallet

end Remit
