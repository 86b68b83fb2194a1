import Remit.Error
import Remit.Json.Decoder
import Remit.Node.Request

/-!
# Envelopes

Almost every answer of a node is an envelope: whether the request was carried out, the data that
was asked for, and what went wrong. An answer is first read as an envelope with any data, and only
then is the data read as what it should be.

Trouble is sorted by whose fault it is. A bad status, a refusal and missing data are the node's and
may pass, so they are errors of the network. An answer that has the wrong form will have it the
next time too, so it is an error of format.
-/

namespace Remit.Node

/-- An answer that wraps its data. -/
structure Envelope where
  success : Bool
  data : Option Json := none
  error : Option String := none

namespace Envelope

/-- The envelope of data. -/
def ok (data : Json) : Envelope := ⟨true, some data, none⟩

/-- The envelope of a refusal. -/
def refusal (reason : String) : Envelope := ⟨false, none, some reason⟩

/-- An envelope in JSON. -/
def json (e : Envelope) : Json :=
  .object [("success", .bool e.success), ("data", e.data.getD .null),
    ("error", .optionalString e.error)]

open Json Decoder in
/-- An envelope from JSON. -/
def decoder : Json.Decoder Envelope :=
  record "Envelope"
    ((((Fields.pure Envelope.mk).and
      (.required "success" boolean)).and
      (.optional "data" (nullable fun origin document => decodeAny origin document) none)).and
      (.optional "error" (nullable string) none))

end Envelope

/-! ### Errors -/

/-- How much of a body is quoted in an error. -/
def excerptLength : Nat := 200

/-- The start of a body. -/
def excerpt (body : String) : String := String.ofList (body.toList.take excerptLength)

/-- An answer with a bad status; `what` names the request. -/
def badStatus (what : String) (response : Response) : Error :=
  .unreached s!"{what}: HTTP {response.status}: {excerpt response.body}"

/-- An envelope that says no. -/
def refused (what : String) (response : Response) (reason : Option String) : Error :=
  let reason := reason.getD s!"HTTP {response.status}"
  .unreached s!"{what}: node rejected request: {reason}"

/-- An envelope that says yes and holds nothing. -/
def withoutData (what : String) : Error :=
  .unreached s!"{what}: response reported success but carried no data"

/-- An answer that is no envelope. -/
def notEnvelope (what : String) (cause : Json.DecodeError) : Error :=
  .format s!"{what}: response is not an API envelope: {cause.message}"

/-- Data that is not what it should be. -/
def badData (what : String) (cause : Json.DecodeError) : Error :=
  .format s!"{what}: malformed response data: {cause.message}"

/-- An answer that is not what it should be. -/
def badAnswer (what : String) (cause : Json.DecodeError) : Error :=
  .format s!"{what}: malformed response: {cause.message}"

/-! ### Decoding -/

/-- How an answer to the named request is read. -/
abbrev Reader (α : Type) := (what : String) → Response → Except Error α

variable {α : Type}

/-- Reads an answer that is an envelope. -/
def decodeEnvelope (decoder : Json.Decoder α) : Reader α := fun what response =>
  match Envelope.decoder.ofText response.body with
  | .error cause =>
    if response.isSuccess then .error (notEnvelope what cause)
    else .error (badStatus what response)
  | .ok envelope =>
    if !envelope.success || !response.isSuccess then
      .error (refused what response envelope.error)
    else
      match envelope.data with
      | none => .error (withoutData what)
      | some data => (decoder.ofValue data).mapError (badData what)

/-- Reads an answer that has no envelope. -/
def decodePlain (decoder : Json.Decoder α) : Reader α := fun what response =>
  if !response.isSuccess then .error (badStatus what response)
  else (decoder.ofText response.body).mapError (badAnswer what)

end Remit.Node
