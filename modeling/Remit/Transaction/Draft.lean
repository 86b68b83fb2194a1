import Remit.Transaction.Basic

/-!
# Drafts of payments

A draft collects the parts of a payment one after the other, in any order. Every part is checked
when it is given; one that is refused leaves the draft as it was, and one that is accepted replaces
what was given before. A payment can be taken from a draft once recipient, amount, fee and nonce
are there, and the draft can be changed further after that.

## Main statements

* `Draft.build_eq_ok_iff`: a draft is complete exactly when its four parts are there.
-/

namespace Remit

/-- The parts of a payment that are known so far. -/
@[ext]
structure Draft where
  recipient : Option Address := none
  amount : Option Amount := none
  fee : Option Amount := none
  nonce : Option UInt64 := none
  timestamp : Option UInt64 := none
  deriving DecidableEq

namespace Draft

/-- A draft without any part. -/
def empty : Draft := {}

/-! ### Changes -/

/-- A change of a draft, which may be refused. What was done to the draft until then stays done, so
several changes in a row end with the first one that is refused. -/
abbrev Change := ExceptT Error (StateM Draft) Unit

/-- Names the recipient, in any spelling of the address. -/
def setRecipient (text : String) : Change :=
  match Identifier.parse .account text with
  | .ok address => modify fun draft => { draft with recipient := some address }
  | .error _ => throw (.validation s!"invalid recipient: {text}")

/-- Sets the amount, in coins. -/
def setAmount (coins : Float) : Change := do
  let amount ← MonadExcept.ofExcept (Amount.ofCoins coins)
  modify fun draft => { draft with amount := some amount }

/-- Sets the amount, in wei. -/
def setAmountWei (text : String) : Change := do
  let amount ← MonadExcept.ofExcept (Amount.parseWei text)
  modify fun draft => { draft with amount := some amount }

/-- Sets the fee, in coins. -/
def setFee (coins : Float) : Change := do
  let fee ← MonadExcept.ofExcept (Amount.ofCoins coins)
  modify fun draft => { draft with fee := some fee }

/-- Sets the fee, in wei. -/
def setFeeWei (text : String) : Change := do
  let fee ← MonadExcept.ofExcept (Amount.parseWei text)
  modify fun draft => { draft with fee := some fee }

/-- Sets the nonce. -/
def setNonce (nonce : UInt64) : Change := modify fun draft => { draft with nonce := some nonce }

/-- Sets the time of signing, in milliseconds since 1970. -/
def setTimestamp (timestamp : UInt64) : Change :=
  modify fun draft => { draft with timestamp := some timestamp }

/-! ### The payment -/

/-- A part that has to be there. -/
def part {α : Type} (name : String) : Option α → Except Error α
  | some value => .ok value
  | none => .error (.incomplete name)

/-- The payment of a complete draft, or else the first part that is missing. -/
def build (draft : Draft) : Except Error Payment := do
  let recipient ← part "recipient" draft.recipient
  let amount ← part "amount" draft.amount
  let fee ← part "fee" draft.fee
  let nonce ← part "nonce" draft.nonce
  .ok ⟨recipient, amount, fee, nonce, draft.timestamp⟩

theorem build_eq_ok_iff {draft : Draft} {payment : Payment} :
    draft.build = .ok payment ↔
      draft = ⟨some payment.recipient, some payment.amount, some payment.fee, some payment.nonce,
        payment.timestamp⟩ := by
  obtain ⟨recipient, amount, fee, nonce, timestamp⟩ := draft
  obtain ⟨r, a, f, n, t⟩ := payment
  cases recipient <;> cases amount <;> cases fee <;> cases nonce <;>
    simp [build, part, bind, Except.bind]

/-! ### Histories -/

/-- A part as it is given. -/
inductive Entry where
  | recipient (text : String)
  | amount (coins : Float)
  | amountWei (text : String)
  | fee (coins : Float)
  | feeWei (text : String)
  | nonce (value : UInt64)
  | timestamp (value : UInt64)

/-- The change that enters a part. -/
def Entry.change : Entry → Change
  | .recipient text => setRecipient text
  | .amount coins => setAmount coins
  | .amountWei text => setAmountWei text
  | .fee coins => setFee coins
  | .feeWei text => setFeeWei text
  | .nonce value => setNonce value
  | .timestamp value => setTimestamp value

/-- What may be done with a draft. -/
inductive Step where
  | enter (entry : Entry)
  | build

/-- What is answered to a step. -/
inductive Answer where
  | entered (outcome : Except Error Unit)
  | built (outcome : Except Error Payment)

/-- The answer to a step, and the draft after it. -/
def step (draft : Draft) : Step → Answer × Draft
  | .enter entry =>
    let (outcome, changed) := entry.change.run draft
    (.entered outcome, changed)
  | .build => (.built draft.build, draft)

/-- The answers to steps that are taken one after the other, and the draft after them. -/
def run (draft : Draft) : List Step → List Answer × Draft
  | [] => ([], draft)
  | next :: rest =>
    let (answer, changed) := draft.step next
    let (answers, final) := changed.run rest
    (answer :: answers, final)

end Draft

end Remit
