import Remit.Amount
import Remit.Identifier
import Remit.Transaction.Basic

/-!
# What nodes tell

The values that a node answers with, and how each is written in JSON. Some members have another
name on the wire than here.
-/

namespace Remit.Node

open Json Json.Decoder

/-- The state of a node. -/
structure Status where
  nodeId : String
  stateVersion : UInt64
  stateRoot : String
  peerCount : UInt64
  isValidator : Bool
  mempoolSize : UInt64
  deriving DecidableEq

namespace Status

/-- The state of a node in JSON. -/
def json (s : Status) : Json :=
  .object
    [("node_id", .string s.nodeId), ("state_version", .nat s.stateVersion.toNat),
     ("state_root", .string s.stateRoot), ("peer_count", .nat s.peerCount.toNat),
     ("is_validator", .bool s.isValidator), ("mempool_size", .nat s.mempoolSize.toNat)]

/-- The state of a node from JSON. -/
def decoder : Decoder Status :=
  record "NodeStatus"
    (((((((Fields.pure Status.mk).and
      (.required "node_id" string)).and
      (.required "state_version" word64)).and
      (.required "state_root" string)).and
      (.required "peer_count" word64)).and
      (.required "is_validator" boolean)).and
      (.required "mempool_size" word64))

end Status

/-- An account. -/
structure Account where
  address : Address
  balance : Amount
  /-- The nonce of the next transaction. -/
  nonce : UInt64
  deriving DecidableEq

namespace Account

/-- An account in JSON. -/
def json (a : Account) : Json :=
  .object [("address", a.address.json), ("balance", a.balance.json), ("nonce", .nat a.nonce.toNat)]

/-- An account from JSON. -/
def decoder : Decoder Account :=
  record "AccountInfo"
    ((((Fields.pure Account.mk).and
      (.required "address" (Identifier.decoder .account))).and
      (.required "balance" Amount.decoder)).and
      (.required "nonce" word64))

end Account

/-- What an account holds. -/
structure Balance where
  address : Address
  amount : Amount
  /-- The amount in coins, as the node writes it. -/
  coins : String
  deriving DecidableEq

namespace Balance

/-- A balance in JSON. -/
def json (b : Balance) : Json :=
  .object [("address", b.address.json), ("balance", b.amount.json),
    ("balance_relyo", .string b.coins)]

/-- A balance from JSON. -/
def decoder : Decoder Balance :=
  record "BalanceInfo"
    ((((Fields.pure Balance.mk).and
      (.required "address" (Identifier.decoder .account))).and
      (.required "balance" Amount.decoder)).and
      (.required "balance_relyo" string))

end Balance

/-- What has become of a transaction. -/
structure TransactionReport where
  id : TransactionId
  status : TransactionStatus
  deriving DecidableEq

namespace TransactionReport

/-- A report in JSON. -/
def json (r : TransactionReport) : Json :=
  .object [("tx_id", r.id.json), ("status", r.status.json)]

/-- A report from JSON. -/
def decoder : Decoder TransactionReport :=
  record "TransactionInfo"
    (((Fields.pure TransactionReport.mk).and
      (.required "tx_id" (Identifier.decoder .transaction))).and
      (.required "status" TransactionStatus.decoder))

end TransactionReport

/-- How a node is doing. -/
structure Health where
  status : String
  deriving DecidableEq

namespace Health

/-- The node is doing well. -/
def isOk (health : Health) : Bool := health.status == "ok"

/-- How a node is doing, in JSON. -/
def json (h : Health) : Json := .object [("status", .string h.status)]

/-- How a node is doing, from JSON. -/
def decoder : Decoder Health :=
  record "Health" ((Fields.pure Health.mk).and (.required "status" string))

end Health

/-- The transactions that wait to be included, in JSON. -/
def pendingJson (ids : List TransactionId) : Json := .array (ids.map Identifier.json)

/-- The transactions that wait to be included, from JSON. -/
def pendingDecoder : Decoder (List TransactionId) := sequence (Identifier.decoder .transaction)

end Remit.Node
