import Remit.Config
import Remit.Node.Envelope
import Remit.Node.Exchange
import Remit.Node.Payload
import Remit.Transaction.Validation
import Remit.Wallet.Basic

/-!
# The client of a node

Every request goes the same way: it is sent, waited for, and read, and if that fails for a reason
that may pass, it is sent again after a pause, until the attempts are used up. The pauses double.
Texts that come from outside, such as addresses, are checked before anything is sent and travel in
one spelling only.
-/

namespace Remit.Node

variable {α : Type}

namespace Client

/-! ### Attempts -/

/-- What an attempt with the given number comes to, once it is known what came back. -/
def outcome (config : Config) (request : Request) (read : Reader α) (attempt : Nat) :
    Option (Except Error Response) → Except Error α
  | none => .error (.timeout request.description config.timeoutMs (UInt32.ofNat attempt))
  | some (.error e) => .error e
  | some (.ok response) => read request.description response

/-- Tries a request until it succeeds or fails for good; `attempt` is the number of the next
attempt, counted from one, and `more` is how many may follow it. -/
def tryAgain (config : Config) (request : Request) (read : Reader α) :
    (more attempt : Nat) → Activity exchange (Except Error α)
  | more, attempt => do
    let reply ← call request config.timeoutMs.toNat
    match outcome config request read attempt reply.outcome with
    | .ok value => return .ok value
    | .error e =>
      if !e.isRetryable then return .error e
      else
        match more with
        | 0 => return .error (e.withAttempts (UInt32.ofNat attempt))
        | more + 1 =>
          pause (config.backoff (UInt32.ofNat attempt)).toNat
          tryAgain config request read more (attempt + 1)

/-- Sends a request, as often as the configuration allows, and reads the answer. -/
def execute (config : Config) (request : Request) (read : Reader α) : Task exchange Error α :=
  .mk (tryAgain config request read (config.attempts - 1) 1)

/-- Asks for what is at a path. -/
def get (config : Config) (path : String) (decoder : Json.Decoder α) : Task exchange Error α :=
  execute config (.get path) (decodeEnvelope decoder)

/-! ### Questions -/

/-- The state of the node. -/
def status (config : Config) : Task exchange Error Status := get config "/status" Status.decoder

/-- How the node is doing. -/
def health (config : Config) : Task exchange Error Health :=
  execute config (.get "/health") (decodePlain Health.decoder)

/-- The transactions that wait to be included. -/
def pending (config : Config) : Task exchange Error (List TransactionId) :=
  get config "/mempool" pendingDecoder

/-- The account with the given address. -/
def account (config : Config) (address : String) : Task exchange Error Account := do
  let address ← Task.ofExcept (Address.canonical address)
  get config s!"/account/{address}" Account.decoder

/-- What the account with the given address holds. -/
def balance (config : Config) (address : String) : Task exchange Error Balance := do
  let address ← Task.ofExcept (Address.canonical address)
  get config s!"/balance/{address}" Balance.decoder

/-- The nonce of the next transaction from an address. -/
def nonce (config : Config) (address : String) : Task exchange Error UInt64 := do
  return (← account config address).nonce

/-- A text is no transaction id. -/
def badTransactionId (id : String) : Error := .validation s!"invalid transaction id: {id}"

/-- What has become of a transaction. -/
def transaction (config : Config) (id : String) : Task exchange Error TransactionReport := do
  let id ← Task.ofExcept ((Identifier.parse .transaction id).mapError fun _ => badTransactionId id)
  get config s!"/transaction/{id.text}" TransactionReport.decoder

/-! ### Transfers -/

/-- Hands in a signed transfer. -/
def submit (config : Config) (t : SignedTransfer) : Task exchange Error TransactionReport :=
  execute config (.post "/transaction" t.json) (decodeEnvelope TransactionReport.decoder)

/-- The present as a timestamp. -/
def timestamp : Task exchange Error UInt64 := .mk do return .ok (← now).milliseconds

/-- What is to be sent from a wallet. -/
structure SendRequest (S : Scheme) where
  wallet : Wallet S
  recipient : String
  amount : AmountInput
  /-- The least fee of nodes if it is missing. -/
  fee : Option AmountInput := none

/-- Looks up the nonce of a wallet, signs a transfer, and hands it in. -/
def send {S : Scheme} (config : Config) (r : SendRequest S) :
    Task exchange Error TransactionReport := do
  let recipient ← Task.ofExcept (Address.canonical r.recipient)
  let amount ← Task.ofExcept r.amount.resolve
  let fee ← Task.ofExcept ((r.fee.getD (.exact Policy.standardFee)).resolve)
  let nonce ← nonce config r.wallet.address.text
  let present ← timestamp
  let t ← Task.ofExcept
    (r.wallet.createTransaction recipient (.exact amount) (.exact fee) nonce none present)
  submit config t

end Client

end Remit.Node
