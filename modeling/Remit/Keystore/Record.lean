import Remit.Json.Decoder
import Remit.Time.Rfc3339
import Remit.Wallet.Serialized

/-!
# Records of stored wallets

What the file of a named wallet holds: a version, the name, the time of creation, and the wallet
itself as it is written elsewhere too. The secret key stands there in plain digits.
-/

namespace Remit.Keystore

/-- The content of a wallet file. -/
structure Record where
  version : UInt32
  name : String
  createdAt : Instant
  address : String
  publicKey : String
  secretKey : String
  deriving DecidableEq

namespace Record

/-- The version that is written and the only one that is read. -/
def currentVersion : UInt32 := 1

/-- The record of a wallet. -/
def ofWallet {S : Scheme} (name : String) (createdAt : Instant) (wallet : Wallet S) : Record where
  version := currentVersion
  name := name
  createdAt := createdAt
  address := wallet.address.text
  publicKey := wallet.publicKey.text
  secretKey := wallet.secretText

/-- A record as a JSON object. -/
def json (r : Record) : Json :=
  .object
    [("version", .nat r.version.toNat), ("name", .string r.name),
     ("created_at", .string (Rfc3339.formatZulu r.createdAt)), ("address", .string r.address),
     ("public_key", .string r.publicKey), ("secret_key", .string r.secretKey)]

/-- The text of a record. -/
def text (r : Record) : String := r.json.renderIndented

open Json Decoder

/-- A point in time from a JSON string. -/
def instantDecoder : Json.Decoder Instant
  | _, .scalar (.string (some text)) =>
    match Rfc3339.parse text with
    | .ok instant => .ok instant
    | .error cause => .error (.refused cause.message)
  | _, document => mismatch "an RFC 3339 formatted date and time string" document

/-- A record from JSON. -/
def decoder : Json.Decoder Record :=
  record "WalletFile"
    (((((((Fields.pure Record.mk).and
      (.required "version" word32)).and
      (.required "name" string)).and
      (.required "created_at" instantDecoder)).and
      (.required "address" string)).and
      (.required "public_key" string)).and
      (.required "secret_key" string))

end Record

end Remit.Keystore
