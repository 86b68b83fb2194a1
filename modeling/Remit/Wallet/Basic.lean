import Remit.Transaction.Signing

/-!
# Wallets

A wallet owns one secret key and is the only thing that signs for the address of that key. It
never changes, so its address cannot drift away from its key.

## Main statements

* `Wallet.createTransaction_eq_ok_iff`: a transfer is made exactly when the recipient is an
  address and both amounts can be resolved, and it is the one that the wallet signs for them.
-/

namespace Remit

/-- The owner of a secret key. -/
structure Wallet (S : Scheme) where
  keys : KeyPair S

namespace Wallet

variable {S : Scheme}

/-- The wallet of a secret key. -/
def ofSecret (S : Scheme) (secret : FixedBytes 32) : Wallet S := ⟨KeyPair.ofSecret S secret⟩

/-- Reads any hexadecimal spelling of a secret key. -/
def ofHex (S : Scheme) (text : String) : Except Error (Wallet S) :=
  (KeyPair.ofHex S text).map Wallet.mk

/-- The account that the wallet signs for. -/
def address (wallet : Wallet S) : Address := wallet.keys.address

/-- The key that others check the signatures of the wallet with. -/
def publicKey (wallet : Wallet S) : PublicKey := wallet.keys.publicKey

/-- The secret key as lowercase digits. -/
def secretText (wallet : Wallet S) : String := wallet.keys.secretText

/-- The address with its type, for a log; the secret key is never shown. -/
def description (wallet : Wallet S) : String := s!"Wallet({wallet.address.text})"

/-! ### Signing -/

/-- Signs bytes. -/
def signBytes (wallet : Wallet S) (bytes : Bytes) : Signature := wallet.keys.sign bytes

/-- Signs a text. -/
def signText (wallet : Wallet S) (text : String) : String :=
  (wallet.signBytes (Bytes.ofText text)).text

/-- Signs a payment; the present, in milliseconds since 1970, is its time unless it has one. -/
def sign (wallet : Wallet S) (payment : Payment) (now : UInt64) : SignedTransfer :=
  (payment.transfer wallet.keys now).sign wallet.keys

/-- A text does not name a recipient. -/
def badRecipient (text : String) : Error := .validation s!"invalid recipient address: {text}"

/-- The payment that is described by a spelling of the recipient and amounts in any form. -/
def payment (recipient : String) (amount fee : AmountInput) (nonce : UInt64)
    (timestamp : Option UInt64) : Except Error Payment := do
  let recipient ← match Identifier.parse .account recipient with
    | .ok address => .ok address
    | .error _ => .error (badRecipient recipient)
  let amount ← amount.resolve
  let fee ← fee.resolve
  .ok ⟨recipient, amount, fee, nonce, timestamp⟩

/-- Makes and signs a transfer. -/
def createTransaction (wallet : Wallet S) (recipient : String) (amount fee : AmountInput)
    (nonce : UInt64) (timestamp : Option UInt64) (now : UInt64) : Except Error SignedTransfer := do
  .ok (wallet.sign (← payment recipient amount fee nonce timestamp) now)

theorem payment_eq_ok_iff {recipient : String} {amount fee : AmountInput} {nonce : UInt64}
    {timestamp : Option UInt64} {p : Payment} :
    payment recipient amount fee nonce timestamp = .ok p ↔
      Identifier.parse .account recipient = .ok p.recipient ∧ amount.resolve = .ok p.amount ∧
        fee.resolve = .ok p.fee ∧ p.nonce = nonce ∧ p.timestamp = timestamp := by
  obtain ⟨r, a, f, n, t⟩ := p
  unfold payment
  cases Identifier.parse .account recipient <;> cases amount.resolve <;> cases fee.resolve <;>
    simp [bind, Except.bind, eq_comm]

theorem createTransaction_eq_ok_iff {wallet : Wallet S} {recipient : String}
    {amount fee : AmountInput} {nonce now : UInt64} {timestamp : Option UInt64}
    {t : SignedTransfer} :
    wallet.createTransaction recipient amount fee nonce timestamp now = .ok t ↔
      ∃ p, payment recipient amount fee nonce timestamp = .ok p ∧ t = wallet.sign p now := by
  unfold createTransaction
  cases payment recipient amount fee nonce timestamp <;> simp [bind, Except.bind, eq_comm]

end Wallet

end Remit
