import Remit.Amount
import Remit.Identifier

/-!
# Transfers

A `Transfer` holds the six public fields of a transaction. Addresses and amounts are kept as the
texts that were signed, well-formed or not, since whoever checks the signature has to see the same
bytes again. A `Payment` is what a transfer is made of before it is signed, and holds values
instead of texts.

A signed transfer is written as one flat JSON object with eight members. It is read from an object
only, in any order of its members.
-/

namespace Remit

/-! ### Transfers -/

/-- The public fields of a transaction as they are written. -/
structure Transfer where
  sender : String
  recipient : String
  /-- The wei that change hands. -/
  amount : String
  /-- The wei that the node keeps. -/
  fee : String
  /-- How many transactions the sender made before. -/
  nonce : UInt64
  /-- The time of signing, in milliseconds since 1970. -/
  timestamp : UInt64
  deriving DecidableEq

/-- A transfer with the public key of its signer and the signature, both as hexadecimal text. -/
structure SignedTransfer where
  data : Transfer
  publicKey : String
  signature : String
  deriving DecidableEq

/-- What is to be transferred, ready to be signed. -/
structure Payment where
  recipient : Address
  amount : Amount
  fee : Amount
  nonce : UInt64
  /-- The time of signing, if it is not to be the present. -/
  timestamp : Option UInt64
  deriving DecidableEq

/-! ### JSON -/

namespace Transfer

/-- The members of a transfer. -/
def members (t : Transfer) : List (String × Json) :=
  [("from", .string t.sender), ("to", .string t.recipient), ("amount", .string t.amount),
   ("fee", .string t.fee), ("nonce", .nat t.nonce.toNat), ("timestamp", .nat t.timestamp.toNat)]

/-- A transfer as a JSON object. -/
def json (t : Transfer) : Json := .object t.members

open Json Decoder in
/-- The fields of a transfer. -/
def fields : Fields Transfer :=
  ((((((Fields.pure Transfer.mk).and
    (.required "from" string)).and
    (.required "to" string)).and
    (.required "amount" string)).and
    (.required "fee" string)).and
    (.required "nonce" word64)).and
    (.required "timestamp" word64)

/-- A transfer from JSON. -/
def decoder : Json.Decoder Transfer := Json.Decoder.record "TransactionData" fields

end Transfer

namespace SignedTransfer

/-- A signed transfer as one flat JSON object. -/
def json (t : SignedTransfer) : Json :=
  .object (t.data.members ++
    [("public_key", .string t.publicKey), ("signature", .string t.signature)])

open Json Decoder in
/-- A signed transfer from a flat JSON object. -/
def decoder : Json.Decoder SignedTransfer :=
  flattened "SignedTransaction"
    (((Fields.pure fun publicKey signature data => ⟨data, publicKey, signature⟩).and
      (.required "public_key" string)).and
      (.required "signature" string))
    Transfer.fields

end SignedTransfer

/-! ### Status -/

/-- What a node says has become of a transaction. -/
inductive TransactionStatus where
  /-- Accepted, but not final. -/
  | pending
  | confirmed
  /-- Rejected when it was carried out. -/
  | failed
  /-- The node knows nothing of it. -/
  | unknown
  deriving DecidableEq

namespace TransactionStatus

/-- The name of a status. -/
def name : TransactionStatus → String
  | pending => "pending"
  | confirmed => "confirmed"
  | failed => "failed"
  | unknown => "unknown"

/-- The status will not change any more. -/
def isFinal : TransactionStatus → Bool
  | confirmed => true
  | failed => true
  | _ => false

/-- All statuses by name. -/
def all : List (String × TransactionStatus) :=
  [pending, confirmed, failed, unknown].map fun status => (status.name, status)

/-- The name as a JSON string. -/
def json (status : TransactionStatus) : Json := .string status.name

/-- A status from its name. -/
def decoder : Json.Decoder TransactionStatus := Json.Decoder.enumeration all

end TransactionStatus

end Remit
