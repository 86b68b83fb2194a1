import Remit.Proofs.Transaction.Rules
import Remit.Wallet.Basic

/-!
# What a wallet signs is accepted

The texts that a wallet writes are read again by the validator as the values they were written
from, and the message that is verified is built from these texts, so it is the one that was
signed. All that is asked of the signature scheme is that it accepts what it signs.

* `hasValidSignature_sign`, `bindsSender_sign`: every transfer verifies under the keys that signed
  it, and is bound to its sender if these are the sender's keys.
* `vouches_sign`: a validator accepts what a wallet signs, up to its policy, and rejects only
  transfers from the wallet to itself.
-/

namespace Remit

variable {S : Scheme}

/-! ### Keys -/

@[simp] theorem PublicKey.parse_text (key : PublicKey) : PublicKey.parse key.text = .ok key := by
  rw [parse, text, Hex.decodeExactly_encode]

namespace Transfer

/-- A signature is right for any transfer at all, well-formed or not. -/
theorem hasValidSignature_sign (hS : S.Sound) (t : Transfer) (keys : KeyPair S) :
    (t.sign keys).hasValidSignature S = true := by
  unfold SignedTransfer.hasValidSignature
  rw [verifyText_eq_true_iff]
  refine ⟨S.sign keys.secret t.signingBytes, keys.publicKey.bytes, Hex.decode_encode _,
    Hex.decode_encode _, ?_⟩
  -- The public key of a pair is that of its secret, which is all that the scheme knows about.
  rw [keys.publicKey_eq]
  exact hS keys.secret t.signingBytes

theorem bindsSender_sign {t : Transfer} {keys : KeyPair S} (h : t.sender = keys.address.text) :
    (t.sign keys).bindsSender S = true := by
  unfold SignedTransfer.bindsSender
  have hkey : PublicKey.parse (t.sign keys).publicKey = .ok keys.publicKey :=
    PublicKey.parse_text keys.publicKey
  have hsender : Identifier.parse .account (t.sign keys).data.sender = .ok keys.address := by
    rw [show (t.sign keys).data.sender = keys.address.text from h, Identifier.parse_text]
  rw [hkey, hsender]
  exact beq_self_eq_true _

end Transfer

namespace Wallet

/-! ### Payments -/

/-- All that a validator may find out about the transfer `t` that a wallet made of the payment `p`
at the given time. -/
structure Vouches (wallet : Wallet S) (p : Payment) (present : UInt64) (t : SignedTransfer) :
    Prop where
  data_eq : t.data = ⟨wallet.address.text, p.recipient.text, p.amount.weiText, p.fee.weiText,
    p.nonce, p.timestamp.getD present⟩
  bindsSender : t.bindsSender S = true
  hasValidSignature : t.hasValidSignature S = true
  totalCost : t.totalCost = .ok ⟨p.amount.wei + p.fee.wei⟩
  check_self : p.recipient = wallet.address →
    ∀ policy now, t.check S policy now = .error .selfTransfer
  check_none : p.recipient ≠ wallet.address → ∀ now, t.check S none now = .ok ()
  check_some : p.recipient ≠ wallet.address → ∀ policy now,
    t.check S (some policy) now = policy.check p.amount p.fee (p.timestamp.getD present) now

theorem Vouches.sign (hS : S.Sound) (wallet : Wallet S) (p : Payment) (present : UInt64) :
    wallet.Vouches p present (wallet.sign p present) := by
  have hbound : (wallet.sign p present).bindsSender S = true := Transfer.bindsSender_sign rfl
  have hauthentic : (wallet.sign p present).hasValidSignature S = true :=
    Transfer.hasValidSignature_sign hS _ _
  -- The validator reads back what the wallet wrote, field by field.
  have hcheck := SignedTransfer.check_eq_of_parse (t := wallet.sign p present)
    (Identifier.parse_text wallet.address) (Identifier.parse_text p.recipient)
    (Amount.parseWei_weiText p.amount) (Amount.parseWei_weiText p.fee) hbound hauthentic
  refine ⟨rfl, hbound, hauthentic, ?_, ?_, ?_, ?_⟩
  · have ha : Amount.parseWei (wallet.sign p present).data.amount = .ok p.amount :=
      Amount.parseWei_weiText p.amount
    have hf : Amount.parseWei (wallet.sign p present).data.fee = .ok p.fee :=
      Amount.parseWei_weiText p.fee
    rw [SignedTransfer.totalCost, ha, hf]
    rfl
  · intro hself policy now
    rw [hcheck, if_pos hself.symm]
  · intro hother now
    rw [hcheck, if_neg (Ne.symm hother)]
  · intro hother policy now
    rw [hcheck, if_neg (Ne.symm hother)]
    rfl

/-- **What a wallet signs is accepted**, both for a payment and for a description of one in any
spelling: the transfer is bound to the wallet and authentic, its cost is the exact sum, and it is
rejected only if it goes to the wallet itself or for reasons of policy. A description is refused
only if its parts cannot be read. -/
theorem vouches_sign (hS : S.Sound) (wallet : Wallet S) (present : UInt64) :
    (∀ p : Payment, wallet.Vouches p present (wallet.sign p present)) ∧
    ∀ (recipient : String) (amount fee : AmountInput) (nonce : UInt64) (timestamp : Option UInt64),
      (∀ t, wallet.createTransaction recipient amount fee nonce timestamp present = .ok t →
        ∃ address a f, Identifier.parse .account recipient = .ok address ∧
          amount.resolve = .ok a ∧ fee.resolve = .ok f ∧
          wallet.Vouches ⟨address, a, f, nonce, timestamp⟩ present t) ∧
      ∀ address a f, Identifier.parse .account recipient = .ok address → amount.resolve = .ok a →
        fee.resolve = .ok f →
        ∃ t, wallet.createTransaction recipient amount fee nonce timestamp present = .ok t ∧
          wallet.Vouches ⟨address, a, f, nonce, timestamp⟩ present t := by
  refine ⟨fun p => .sign hS wallet p present, ?_⟩
  intro recipient amount fee nonce timestamp
  constructor
  · intro t ht
    rw [createTransaction_eq_ok_iff] at ht
    obtain ⟨⟨address, a, f, _, _⟩, hp, rfl⟩ := ht
    obtain ⟨haddress, ha, hf, rfl, rfl⟩ := payment_eq_ok_iff.1 hp
    exact ⟨address, a, f, haddress, ha, hf, .sign hS wallet _ present⟩
  · intro address a f haddress ha hf
    refine ⟨_, ?_, .sign hS wallet ⟨address, a, f, nonce, timestamp⟩ present⟩
    rw [createTransaction_eq_ok_iff]
    exact ⟨_, payment_eq_ok_iff.2 ⟨haddress, ha, hf, rfl, rfl⟩, rfl⟩

/-- A secret key. -/
def sampleSecret : FixedBytes 32 :=
  #v[0x9d, 0x61, 0xb1, 0x9d, 0xef, 0xfd, 0x5a, 0x60, 0xba, 0x84, 0x4a, 0xf4, 0x92, 0xec, 0x2c,
    0xc4, 0x44, 0x49, 0xc5, 0x69, 0x7b, 0x32, 0x69, 0x19, 0x70, 0x3b, 0xac, 0x03, 0x1c, 0xae, 0x7f,
    0x60]

/-- The signature under this key of the transfer in `vouches_sign_sample`. -/
def sampleSignature : FixedBytes 64 :=
  #v[0x83, 0xa0, 0x02, 0xfa, 0x38, 0xc8, 0x4e, 0x2a, 0x38, 0x5b, 0x80, 0x99, 0x1a, 0x05, 0x9e,
    0x86, 0x7c, 0xc4, 0x6d, 0xf4, 0x36, 0x31, 0x29, 0xbd, 0xd3, 0xd4, 0x46, 0x40, 0x57, 0xe7, 0x97,
    0x2e, 0xde, 0x39, 0x08, 0x81, 0xbc, 0x6e, 0x01, 0x2e, 0xb4, 0x68, 0x8f, 0x9e, 0x3e, 0x57, 0x74,
    0x84, 0x25, 0x17, 0xcb, 0x5b, 0x96, 0xe2, 0x49, 0x0c, 0xd3, 0x89, 0x55, 0xac, 0x8b, 0x84, 0x1e,
    0x02]

/-- A scheme with one public key and one signature, the values that `Scheme.standard` has for the
secret key and the transfer. -/
def sampleScheme : Scheme where
  hash _ :=
    #v[0x6c, 0x31, 0x04, 0x12, 0x68, 0xf4, 0x71, 0x60, 0x9c, 0x79, 0xf5, 0xf2, 0xdb, 0xcc, 0x38,
      0xe4, 0xa4, 0xab, 0x2f, 0x4d, 0x41, 0x61, 0x09, 0xa4, 0xe0, 0x9f, 0xcf, 0x50, 0xfd, 0x0f,
      0x00, 0x62]
  publicKey _ :=
    #v[0xd7, 0x5a, 0x98, 0x01, 0x82, 0xb1, 0x0a, 0xb7, 0xd5, 0x4b, 0xfe, 0xd3, 0xc9, 0x64, 0x07,
      0x3a, 0x0e, 0xe1, 0x72, 0xf3, 0xda, 0xa6, 0x23, 0x25, 0xaf, 0x02, 0x1a, 0x68, 0xf7, 0x07,
      0x51, 0x1a]
  sign _ _ := sampleSignature
  verify _ _ signature := signature == sampleSignature

/-- More wei than fit into 64 bits, to a recipient in capitals behind a mark. -/
theorem vouches_sign_sample :
    sampleScheme.Sound ∧
    ∃ t, (ofSecret sampleScheme sampleSecret).createTransaction
        "0XABABABABABABABABABABABABABABABABABABABABABABABABABABABABABABABAB"
        (.exact ⟨10 ^ 30⟩) (.exact ⟨7⟩) 18446744073709551615 (some 1700000000000) 0 = .ok t ∧
      t.check sampleScheme none 0 = .ok () ∧ t.totalCost = .ok ⟨10 ^ 30 + 7⟩ ∧
      t.check sampleScheme (some .standard) 0 = .error (.feeTooLow ⟨7⟩ Policy.standardFee) := by
  have hS : sampleScheme.Sound := fun _ _ => beq_self_eq_true sampleSignature
  obtain ⟨t, ht, hvouches⟩ := ((vouches_sign hS (ofSecret sampleScheme sampleSecret) 0).2
    "0XABABABABABABABABABABABABABABABABABABABABABABABABABABABABABABABAB"
    (.exact ⟨10 ^ 30⟩) (.exact ⟨7⟩) 18446744073709551615 (some 1700000000000)).2
    ⟨Vector.replicate 32 0xab⟩ ⟨10 ^ 30⟩ ⟨7⟩ (by rfl) rfl rfl
  have hother : (⟨Vector.replicate 32 0xab⟩ : Address) ≠
      (ofSecret sampleScheme sampleSecret).address := by
    decide
  refine ⟨hS, t, ht, hvouches.check_none hother 0, hvouches.totalCost, ?_⟩
  rw [hvouches.check_some hother]
  decide

end Wallet

end Remit
