import Remit.Activity
import Remit.Amount
import Remit.Bytes
import Remit.Cli.Arguments
import Remit.Cli.Command
import Remit.Cli.Run
import Remit.Cli.Usage
import Remit.Config
import Remit.Crypto.Blake3
import Remit.Crypto.Ed25519
import Remit.Crypto.Scheme
import Remit.Crypto.Sha256
import Remit.Crypto.Sha512
import Remit.Decimal.Binary64
import Remit.Decimal.Natural
import Remit.Decimal.Shortest
import Remit.Error
import Remit.FileSystem.Disk
import Remit.FileSystem.Error
import Remit.FileSystem.Files
import Remit.FileSystem.Path
import Remit.Identifier
import Remit.Json.Decoder
import Remit.Json.Document
import Remit.Json.Numeral
import Remit.Json.Place
import Remit.Json.Token
import Remit.Json.Value
import Remit.Keys
import Remit.Keystore.Basic
import Remit.Keystore.Record
import Remit.Main
import Remit.Network
import Remit.Node.Client
import Remit.Node.Envelope
import Remit.Node.Exchange
import Remit.Node.Http
import Remit.Node.Payload
import Remit.Node.Polling
import Remit.Node.Request
import Remit.Proofs.Text.Grammar
import Remit.Text.Base64
import Remit.Text.Blank
import Remit.Text.Hex
import Remit.Text.Quoted
import Remit.Text.Unprintable
import Remit.Time.Instant
import Remit.Time.Rfc3339
import Remit.Transaction.Basic
import Remit.Transaction.Draft
import Remit.Transaction.Signing
import Remit.Transaction.Validation
import Remit.Wallet.Basic
import Remit.Wallet.File
import Remit.Wallet.Hierarchy
import Remit.Wallet.Serialized
import Remit.Proofs.Transaction.Rules
import Remit.Proofs.Transaction.Encoding
import Remit.Proofs.Wallet.Signing
import Remit.Proofs.Node.Attempts
import Remit.Proofs.Json.Printing
import Remit.Proofs.Json.Members
import Remit.Proofs.Node.Replies
import Remit.Proofs.Transaction.Submission
import Remit.Proofs.Node.Waiting
import Remit.Proofs.Node.Sending
import Remit.Proofs.Text.Coins
import Remit.Proofs.Cli.Transfers
import Remit.Proofs.Wallet.Messages
import Remit.Proofs.Json.Alike
import Remit.Proofs.Json.Unclosed
import Remit.Proofs.Json.Fronts
import Remit.Proofs.Json.Places
import Remit.Proofs.Text.Utf8
import Remit.Proofs.Wallet.Written
import Remit.Proofs.Wallet.Secrecy
import Remit.Proofs.Keystore.Records
import Remit.Proofs.Keystore.Folder
import Remit.Proofs.Keystore.OnDisk
import Remit.Proofs.Keystore.WriteOnce
import Remit.Proofs.Keystore.Phases
import Remit.Proofs.Keystore.Races
import Remit.Proofs.Wallet.Children
import Remit.Proofs.Node.Cadence
import Remit.Proofs.Json.Reordering
import Remit.Proofs.Node.Answers
import Remit.Proofs.Transaction.Drafting
import Remit.Proofs.Text.Numerals
import Remit.Proofs.Text.CoinText
import Remit.Proofs.Text.Spellings
import Remit.Proofs.Json.Records
import Remit.Proofs.Node.Faults
import Remit.Proofs.Node.Schedule
import Remit.Proofs.Transaction.Policies
import Remit.Proofs.Transaction.Respelling
import Remit.Proofs.Keystore.Labels
import Remit.Proofs.Keystore.Names
import Remit.Proofs.Wallet.Restoring
import Remit.Proofs.FileSystem.Moments
import Remit.Proofs.FileSystem.Places
import Remit.Proofs.Wallet.Saving
import Remit.Proofs.Keystore.Confined
import Remit.Proofs.Keystore.Interrupted
import Remit.Proofs.Wallet.Ranges
import Remit.Proofs.Cli.Derivation
import Remit.Proofs.Node.Questions
import Remit.Proofs.Text.Wei
import Remit.Proofs.Transaction.Reasons
