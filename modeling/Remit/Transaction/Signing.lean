import Remit.Keys
import Remit.Transaction.Basic

/-!
# Signing a transfer

What is signed is a text: a tag, and then the six fields as they are written, with colons between
them. The id of a transaction is the digest of the fields alone, so it does not depend on the
signature and is known before there is one.

## Main statements

* `Transfer.signingText_eq_iff`: two transfers have one signing text if and only if they have one
  text of fields.
-/

namespace Remit

namespace Transfer

/-- The fields as they are joined. -/
def parts (t : Transfer) : List String :=
  [t.sender, t.recipient, t.amount, t.fee, toString t.nonce.toNat, toString t.timestamp.toNat]

/-- The text of the fields. -/
def fieldText (t : Transfer) : String := String.intercalate ":" t.parts

/-- What every signed text starts with. -/
def tag : String := "RELYO_TX:"

/-- The text that is signed. -/
def signingText (t : Transfer) : String := tag ++ t.fieldText

/-- The bytes that are signed. -/
def signingBytes (t : Transfer) : Bytes := Bytes.ofText t.signingText

/-- The id of the transaction. -/
def id (S : Scheme) (t : Transfer) : TransactionId := ⟨S.hash (Bytes.ofText t.fieldText)⟩

theorem signingText_eq_iff {a b : Transfer} :
    a.signingText = b.signingText ↔ a.fieldText = b.fieldText := by
  simp [signingText]

/-- Signs a transfer. That the keys are those of the sender is left to the caller; if they are
not, nobody accepts the result. -/
def sign {S : Scheme} (t : Transfer) (keys : KeyPair S) : SignedTransfer where
  data := t
  publicKey := keys.publicKey.text
  signature := (keys.sign t.signingBytes).text

end Transfer

/-- The transfer from the account of the keys that a payment describes. -/
def Payment.transfer {S : Scheme} (p : Payment) (keys : KeyPair S) (now : UInt64) : Transfer where
  sender := keys.address.text
  recipient := p.recipient.text
  amount := p.amount.weiText
  fee := p.fee.weiText
  nonce := p.nonce
  timestamp := p.timestamp.getD now

end Remit
