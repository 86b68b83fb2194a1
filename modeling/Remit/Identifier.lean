import Remit.Error
import Remit.Json.Decoder
import Remit.Text.Hex

/-!
# Addresses and transaction ids

An account and a transaction are each named by a digest of 32 bytes: of a public key and of the
fields of the transaction. Both are written as 64 lowercase digits and read from any hexadecimal
spelling of 32 bytes. The two kinds share everything but their name, and are never confused,
since the kind is part of the type.

## Main statements

* `Identifier.parse_text`: reading inverts writing.
* `Identifier.parse_eq_ok_iff`: what is read is what hexadecimal text says.
-/

namespace Remit

/-- What an identifier names. -/
inductive Identifier.Kind where
  | account
  | transaction
  deriving DecidableEq

/-- How an identifier of this kind is called in errors. -/
def Identifier.Kind.name : Kind → String
  | account => "Address"
  | transaction => "TransactionId"

/-- A digest that names something. -/
structure Identifier (kind : Identifier.Kind) where
  bytes : FixedBytes 32
  deriving DecidableEq

/-- Names an account: the digest of its public key. -/
abbrev Address := Identifier .account

/-- Names a transaction: the digest of its fields. -/
abbrev TransactionId := Identifier .transaction

namespace Identifier

variable {kind : Kind}

/-- The identifier as 64 lowercase digits. -/
def text (id : Identifier kind) : String := Hex.encode id.bytes.toList

/-- The identifier with its kind, for a log. -/
def description (id : Identifier kind) : String := s!"{kind.name}({id.text})"

/-- A text is no identifier of this kind. -/
def malformed (kind : Kind) (text : String) : Error :=
  .format s!"{kind.name} must be 64 hex characters, got {Text.quoted text}"

/-- Reads any hexadecimal spelling of 32 bytes. -/
def parse (kind : Kind) (text : String) : Except Error (Identifier kind) :=
  match Hex.decodeExactly 32 text with
  | .ok bytes => .ok ⟨bytes⟩
  | .error _ => .error (malformed kind text)

/-- The order of the bytes. -/
def order (a b : Identifier kind) : Ordering := compare a.bytes.toList b.bytes.toList

/-- The identifier as a JSON string. -/
def json (id : Identifier kind) : Json := .string id.text

/-- An identifier from a JSON string. -/
def decoder (kind : Kind) : Json.Decoder (Identifier kind) :=
  Json.Decoder.ofString fun text => (parse kind text).mapError Error.message

theorem parse_eq_ok_iff {text : String} {id : Identifier kind} :
    parse kind text = .ok id ↔ Hex.decodeExactly 32 text = .ok id.bytes := by
  unfold parse
  cases Hex.decodeExactly 32 text with
  | ok bytes => cases id; simp
  | error e => simp

@[simp] theorem parse_text (id : Identifier kind) : parse kind id.text = .ok id :=
  parse_eq_ok_iff.2 (Hex.decodeExactly_encode id.bytes)

end Identifier

namespace Address

/-- A text names an account. -/
def isValid (text : String) : Bool :=
  match Hex.decode text with
  | .ok bytes => bytes.length == 32
  | .error _ => false

/-- The one spelling of an address that requests use, for any spelling of it. -/
def canonical (text : String) : Except Error String :=
  match Hex.decodeExactly 32 text with
  | .ok bytes => .ok (Hex.encode bytes.toList)
  | .error _ => .error (.validation s!"invalid address: {text}")

end Address

end Remit
