import Remit.Json.Place
import Remit.Wallet.Basic

/-!
# Wallets as text

A wallet is written as a JSON object with its address, its public key and its secret key. Only the
secret key is needed to read it back. An address that is there has to be the one of the secret
key, which catches texts that were edited or mixed up; the public key is not looked at.

## Main statements

* `Wallet.wallet_serialized`: what is written of a wallet stands for that wallet.
-/

namespace Remit.Wallet

/-- A wallet as it is written. -/
structure Serialized where
  address : Option String := none
  publicKey : Option String := none
  secretKey : Option String := none

namespace Serialized

/-- A member for a text that is there. -/
def member (name : String) : Option String → List (String × Json)
  | none => []
  | some text => [(name, .string text)]

/-- The JSON object. -/
def json (s : Serialized) : Json :=
  .object (member "address" s.address ++ member "public_key" s.publicKey ++
    member "secret_key" s.secretKey)

open Json Decoder in
/-- A written wallet from JSON, in which everything may be missing. -/
def decoder : Json.Decoder Serialized :=
  record "WalletJson"
    ((((Fields.pure Serialized.mk).and
      (.optional "address" (nullable string) none)).and
      (.optional "public_key" (nullable string) none)).and
      (.optional "secret_key" (nullable string) none))

/-- There is no secret key. -/
def noSecret : Error := .invalidKey "serialized wallet has no secret_key"

/-- The address cannot be read. -/
def badAddress : Error := .invalidKey "serialized wallet has a malformed address"

/-- The address belongs to another key. -/
def otherAddress : Error :=
  .invalidKey "serialized wallet address does not match its secret key"

/-- The wallet that is meant. -/
def wallet (S : Scheme) (s : Serialized) : Except Error (Wallet S) := do
  let secret ← match s.secretKey with
    | some secret => .ok secret
    | none => .error noSecret
  let wallet ← Wallet.ofHex S secret
  match s.address with
  | none => .ok wallet
  | some text =>
    match Identifier.parse .account text with
    | .error _ => .error badAddress
    | .ok address => if address = wallet.address then .ok wallet else .error otherAddress

end Serialized

variable {S : Scheme}

/-- All that is written of a wallet. -/
def serialized (wallet : Wallet S) : Serialized where
  address := some wallet.address.text
  publicKey := some wallet.publicKey.text
  secretKey := some wallet.secretText

/-- The text of a wallet. -/
def serialize (wallet : Wallet S) : String := wallet.serialized.json.renderIndented

/-- A text could not be decoded as JSON of the right form. -/
def notDecoded (text : String) (cause : Json.DecodeError) : Error :=
  .format (Serialized.decoder.report text cause)

/-- Reads the text of a wallet. -/
def ofSerialized (S : Scheme) (text : String) : Except Error (Wallet S) :=
  match Serialized.decoder.ofText text with
  | .ok s => s.wallet S
  | .error cause => .error (notDecoded text cause)

theorem wallet_serialized (wallet : Wallet S) : wallet.serialized.wallet S = .ok wallet := by
  have h : Wallet.ofHex S wallet.secretText = .ok wallet := by
    have := KeyPair.ofHex_encode (S := S) wallet.keys.secret
    simp only [KeyPair.ofSecret_secret] at this
    simp [Wallet.ofHex, secretText, KeyPair.secretText, this, Except.map]
  simp [Serialized.wallet, serialized, h, bind, Except.bind]

end Remit.Wallet
