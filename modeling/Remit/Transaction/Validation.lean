import Remit.Transaction.Signing

/-!
# Validation of signed transfers

A signed transfer is accepted or rejected for one reason, the first rule that it breaks: its
sender, its recipient, its amount and its fee have to be well-formed, sender and recipient have to
differ, the public key has to be that of the sender, and the signature has to be right. A policy
may ask for more: a least fee, a greatest amount, and a greatest age.

The rules look at what the texts stand for. Two spellings of one address are one account, and only
the signature depends on how a field is written.

## Main statements

* `Verdict.reason_eq_none_iff`: a reason is given exactly when a transfer is not valid.
-/

namespace Remit

/-! ### Verdicts -/

/-- Why a signed transfer is not accepted. -/
inductive Rejection where
  | invalidSender
  | invalidRecipient
  | invalidAmount
  | invalidFee
  | selfTransfer
  /-- The public key is not the one of the sender. -/
  | senderKeyMismatch
  | invalidSignature
  | feeTooLow (fee minimum : Amount)
  | amountTooHigh (amount maximum : Amount)
  | expired (ageMs limitMs : UInt64)
  deriving DecidableEq

/-- The wording of a rejection. -/
def Rejection.message : Rejection → String
  | invalidSender => "invalid sender address"
  | invalidRecipient => "invalid recipient address"
  | invalidAmount => "invalid amount: must be a non-negative integer"
  | invalidFee => "invalid fee: must be a non-negative integer"
  | selfTransfer => "self-transfer: sender and recipient are the same address"
  | senderKeyMismatch => "public key does not match sender address"
  | invalidSignature => "invalid signature"
  | feeTooLow fee minimum => s!"fee {fee.weiText} is below the minimum {minimum.weiText}"
  | amountTooHigh amount maximum =>
    s!"amount {amount.weiText} exceeds the maximum {maximum.weiText}"
  | expired ageMs limitMs => s!"transaction expired: {ageMs}ms old, limit {limitMs}ms"

/-- The outcome of a validation, for a report. -/
structure Verdict where
  valid : Bool
  reason : Option String
  deriving DecidableEq

/-- The report of an outcome. -/
def Verdict.ofOutcome : Except Rejection Unit → Verdict
  | .ok () => ⟨true, none⟩
  | .error rejection => ⟨false, some rejection.message⟩

theorem Verdict.reason_eq_none_iff (outcome : Except Rejection Unit) :
    (ofOutcome outcome).reason = none ↔ (ofOutcome outcome).valid = true := by
  cases outcome <;> simp [ofOutcome]

/-! ### Policies -/

/-- Limits beyond what makes a transfer well-formed and authentic. -/
structure Policy where
  minFee : Amount
  maxAmount : Amount
  /-- How many milliseconds may have passed since the timestamp. -/
  maxAgeMs : Option UInt64
  deriving DecidableEq

/-- The least fee of nodes: a thousandth of a coin. -/
def Policy.standardFee : Amount := ⟨Nat.pow 10 15⟩

/-- How long nodes accept a signed transfer: one hour, in milliseconds. -/
def Policy.standardAgeMs : UInt64 := 3600000

/-- The limits of nodes; a transfer moves at most a million coins. -/
def Policy.standard : Policy where
  minFee := standardFee
  maxAmount := ⟨Nat.pow 10 6 * Amount.weiPerCoin⟩
  maxAgeMs := some standardAgeMs

/-- The milliseconds from a timestamp to the present, and none if it lies ahead. -/
def age (now timestamp : UInt64) : UInt64 := if now < timestamp then 0 else now - timestamp

theorem toNat_age (now timestamp : UInt64) :
    (age now timestamp).toNat = now.toNat - timestamp.toNat := by
  unfold age
  split
  · rename_i h
    have := UInt64.lt_iff_toNat_lt.1 h
    simp only [UInt64.toNat_zero]; omega
  · rename_i h
    rw [UInt64.toNat_sub_of_le]
    exact UInt64.le_iff_toNat_le.2 (Nat.le_of_not_lt fun hlt => h (UInt64.lt_iff_toNat_lt.2 hlt))

/-- Checks the fee, then the amount, then the age. -/
def Policy.check (policy : Policy) (amount fee : Amount) (timestamp now : UInt64) :
    Except Rejection Unit :=
  if fee.wei < policy.minFee.wei then .error (.feeTooLow fee policy.minFee)
  else if amount.wei > policy.maxAmount.wei then .error (.amountTooHigh amount policy.maxAmount)
  else
    match policy.maxAgeMs with
    | none => .ok ()
    | some limit => if limit < age now timestamp then .error (.expired (age now timestamp) limit)
      else .ok ()

/-! ### Signed transfers -/

/-- Replaces the error of a computation. -/
def orReject {ε α : Type} (rejection : Rejection) : Except ε α → Except Rejection α :=
  Except.mapError fun _ => rejection

namespace SignedTransfer

/-- The signature is right for the transfer and the public key, whichever key that is. -/
def hasValidSignature (S : Scheme) (t : SignedTransfer) : Bool :=
  verifyText S t.signature t.data.signingBytes t.publicKey

/-- The public key is the one of the sender. -/
def bindsSender (S : Scheme) (t : SignedTransfer) : Bool :=
  match PublicKey.parse t.publicKey, Identifier.parse .account t.data.sender with
  | .ok key, .ok sender => key.address S == sender
  | _, _ => false

/-- What the sender pays in all. -/
def totalCost (t : SignedTransfer) : Except Error Amount := do
  let amount ← Amount.parseWei t.data.amount
  let fee ← Amount.parseWei t.data.fee
  .ok (amount.add fee)

/-- The first rule that the transfer breaks at the given time, in milliseconds since 1970. -/
def check (S : Scheme) (policy : Option Policy) (now : UInt64) (t : SignedTransfer) :
    Except Rejection Unit := do
  let sender ← orReject .invalidSender (Identifier.parse .account t.data.sender)
  let recipient ← orReject .invalidRecipient (Identifier.parse .account t.data.recipient)
  let amount ← orReject .invalidAmount (Amount.parseWei t.data.amount)
  let fee ← orReject .invalidFee (Amount.parseWei t.data.fee)
  if sender = recipient then .error .selfTransfer
  else if !t.bindsSender S then .error .senderKeyMismatch
  else if !t.hasValidSignature S then .error .invalidSignature
  else
    match policy with
    | none => .ok ()
    | some policy => policy.check amount fee t.data.timestamp now

end SignedTransfer

end Remit
