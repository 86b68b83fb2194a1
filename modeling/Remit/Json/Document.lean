import Remit.Json.Token

/-!
# Documents

A document is what a text holds as far as it can be read. Where the text stops making sense the
document has a `malformed` part, at the place where a reader would meet it; so a reader that takes
a document apart from left to right and stops at the first thing it does not want meets flaws of
the text and unwanted values in the order in which they stand.

In an array that is never closed the last item is malformed; in an object the last member has a
malformed name, as it has where something else than a string stands for a name.

The tokens are put together by a machine with one frame for each open array or object.
-/

namespace Remit.Json

/-- What a text holds. -/
inductive Document where
  | scalar (value : Scalar)
  | array (items : List Document)
  | object (members : List (Document × Document))
  | malformed
  deriving Inhabited

namespace Document

/-! ### Soundness -/

mutual

/-- The document can be read to its end: nothing in it is malformed and all names are strings.
Scalars without a value do no harm. -/
def isSound : Document → Bool
  | scalar _ => true
  | array items => areItemsSound items
  | object members => areMembersSound members
  | malformed => false

/-- All items can be read to their end. -/
def areItemsSound : List Document → Bool
  | [] => true
  | item :: rest => item.isSound && areItemsSound rest

/-- All members have strings as names and values that can be read to their end. -/
def areMembersSound : List (Document × Document) → Bool
  | [] => true
  | (.scalar (.string _), value) :: rest => value.isSound && areMembersSound rest
  | _ :: _ => false

end

/-! ### Putting tokens together -/

/-- An open array or object with what it holds so far, last first. -/
inductive Frame where
  | array (items : List Document)
  | object (members : List (Document × Document))
  /-- An object in which the value for a name is due. -/
  | member (members : List (Document × Document)) (name : Document)

/-- What may come next. -/
inductive Due where
  /-- A value. -/
  | value
  /-- The first item of an array, or its end. -/
  | firstItem
  /-- The first name of an object, or its end. -/
  | firstName
  /-- A name. -/
  | name
  /-- The colon behind a name. -/
  | colon
  /-- A comma, or the end of the array or object. -/
  | more

/-- Puts a part into the innermost frame and closes all frames. -/
def closeWith (part : Document) : List Frame → Document
  | [] => part
  | .array items :: frames => closeWith (array (part :: items).reverse) frames
  | .object members :: frames => closeWith (object ((part, malformed) :: members).reverse) frames
  | .member members name :: frames =>
    closeWith (object ((name, part) :: members).reverse) frames

/-- The document when the text stops making sense while frames are open. -/
def abandon (frames : List Frame) : Document := closeWith malformed frames

/-- Hands a finished part to the innermost frame: the frames that are left, or the part itself if
nothing is open. -/
def deliver (part : Document) : List Frame → Document ⊕ List Frame
  | [] => .inl part
  | .array items :: frames => .inr (.array (part :: items) :: frames)
  | .object members :: frames => .inr (.object ((part, malformed) :: members) :: frames)
  | .member members name :: frames => .inr (.object ((name, part) :: members) :: frames)

/-- What one token does. -/
inductive Step where
  /-- A part is finished. -/
  | finish (part : Document) (frames : List Frame)
  /-- Something is still open. -/
  | goOn (due : Due) (frames : List Frame)
  /-- The token does not fit. -/
  | stop (document : Document)

/-- The step of a token where a value is due. -/
def stepValue (token : Token) (frames : List Frame) : Step :=
  match token with
  | .scalar value => .finish (scalar value) frames
  | .beginArray => .goOn .firstItem (.array [] :: frames)
  | .beginObject => .goOn .firstName (.object [] :: frames)
  | _ => .stop (abandon frames)

/-- The step of a token where a name is due. -/
def stepName (token : Token) (frames : List Frame) : Step :=
  match token, frames with
  | .scalar (.string text), .object members :: frames =>
    .goOn .colon (.member members (scalar (.string text)) :: frames)
  | _, frames => .stop (abandon frames)

/-- The step of a token. -/
def step (due : Due) (token : Token) (frames : List Frame) : Step :=
  match due, token, frames with
  | .value, token, frames => stepValue token frames
  | .firstItem, .endArray, .array items :: frames => .finish (array items.reverse) frames
  | .firstItem, token, frames => stepValue token frames
  | .firstName, .endObject, .object members :: frames => .finish (object members.reverse) frames
  | .firstName, token, frames => stepName token frames
  | .name, token, frames => stepName token frames
  | .colon, .colon, frames => .goOn .value frames
  | .colon, _, frames => .stop (abandon frames)
  | .more, .comma, .array items :: frames => .goOn .value (.array items :: frames)
  | .more, .comma, .object members :: frames => .goOn .name (.object members :: frames)
  | .more, .endArray, .array items :: frames => .finish (array items.reverse) frames
  | .more, .endObject, .object members :: frames => .finish (object members.reverse) frames
  | .more, _, frames => .stop (abandon frames)

/-- Puts tokens together to one document; returns it with the tokens behind it. -/
def build (due : Due) (frames : List Frame) : List Token → Document × List Token
  | [] => (abandon frames, [])
  | token :: rest =>
    match step due token frames with
    | .stop document => (document, rest)
    | .goOn due frames => build due frames rest
    | .finish part frames =>
      match deliver part frames with
      | .inl document => (document, rest)
      | .inr frames => build .more frames rest

/-- The document at the start of a text, with the tokens behind it. -/
def ofText (text : String) : Document × List Token := build .value [] (Token.scan text.toList)

end Document

/-! ### Values as documents -/

mutual

/-- A value as a document: all of it can be read. -/
def toDocument : Json → Document
  | null => .scalar .null
  | bool value => .scalar (.bool value)
  | number value => .scalar (.number (some value))
  | string text => .scalar (.string (some text))
  | array items => .array (itemDocuments items)
  | object members => .object (memberDocuments members)

/-- The items of an array as documents. -/
def itemDocuments : List Json → List Document
  | [] => []
  | item :: rest => item.toDocument :: itemDocuments rest

/-- The members of an object as documents. -/
def memberDocuments : List (String × Json) → List (Document × Document)
  | [] => []
  | (name, value) :: rest =>
    (.scalar (.string (some name)), value.toDocument) :: memberDocuments rest

end

end Remit.Json
