import Remit.Json.Document
import Remit.Text.Quoted

/-!
# Decoding documents

A decoder turns a document into a value of some type, or says what is wrong with it. A document
comes from a text or from a JSON value, and a few rules depend on which: only a text can end too
early, and only in a text may containers not be nested more than 127 deep.

A record is decoded from an object, whose members may come in any order, with unknown ones
skipped; or from an array that holds the fields in order. Every field is checked where it stands,
so the first flaw of the document is the one reported; fields that are missing are noticed at the
end, in the order of the fields.

## Main statements

* `Decoder.string_toDocument`, `Decoder.boolean_toDocument`: a scalar of the right kind is decoded
  to itself, wherever it comes from.
-/

namespace Remit.Json

/-! ### Errors -/

/-- The kind of value that was found, with its content if it is a scalar. -/
inductive Found where
  | null
  | boolean (value : Bool)
  | integer (value : Int)
  | double (bits : UInt64)
  | string (text : String)
  | sequence
  | map
  deriving DecidableEq

/-- How a found value is named. -/
def Found.name : Found → String
  | null => "null"
  | boolean value => s!"boolean \x60{value}\x60"
  | integer value => s!"integer \x60{value}\x60"
  | double bits => s!"floating point \x60{Decimal.scientific (Float.ofBits bits)}\x60"
  | string text => s!"string {Text.quoted text}"
  | sequence => "sequence"
  | map => "map"

/-- Why a document is not decoded. -/
inductive DecodeError where
  /-- The text is not JSON, or not where it was read. -/
  | notJson
  | wrongType (found : Found) (expected : String)
  | wrongValue (found : Found) (expected : String)
  | wrongLength (length : Nat) (expected : String)
  | missingField (name : String)
  | duplicateField (name : String)
  | unknownVariant (name : String) (expected : List String)
  /-- The content of a string is refused, for the stated reason. -/
  | refused (reason : String)
  deriving DecidableEq

/-- A word in backquotes. -/
def ticked (word : String) : String := "\x60" ++ word ++ "\x60"

/-- The wording of an error. It leaves out the place in the text, which is named behind it, and does
not tell apart what can be wrong with a text that is not JSON. -/
def DecodeError.message : DecodeError → String
  | notJson => "invalid JSON"
  | wrongType found expected => s!"invalid type: {found.name}, expected {expected}"
  | wrongValue found expected => s!"invalid value: {found.name}, expected {expected}"
  | wrongLength length expected => s!"invalid length {length}, expected {expected}"
  | missingField name => s!"missing field {ticked name}"
  | duplicateField name => s!"duplicate field {ticked name}"
  | unknownVariant name expected =>
    s!"unknown variant {ticked name}, expected one of " ++
      String.intercalate ", " (expected.map ticked)
  | refused reason => reason

/-! ### Decoders -/

/-- Where a document comes from. -/
inductive Origin where
  /-- A text, with the number of levels that may still be entered, plus one. -/
  | text (levels : Nat)
  /-- A JSON value. -/
  | value
  deriving DecidableEq

/-- The origin one level deeper. -/
def Origin.enter : Origin → Except DecodeError Origin
  | .text levels => if levels ≤ 1 then .error .notJson else .ok (.text (levels - 1))
  | .value => .ok .value

/-- Reads a document as a value of type `α`. -/
abbrev Decoder (α : Type) := Origin → Document → Except DecodeError α

namespace Decoder

variable {α β : Type}

/-- What kind of value the document is, if it can be told. -/
def found : Document → Except DecodeError Found
  | .scalar .null => .ok .null
  | .scalar (.bool value) => .ok (.boolean value)
  | .scalar (.number (some (.integer value))) => .ok (.integer value)
  | .scalar (.number (some (.double bits))) => .ok (.double bits)
  | .scalar (.string (some text)) => .ok (.string text)
  | .scalar (.number none) => .error .notJson
  | .scalar (.string none) => .error .notJson
  | .array _ => .ok .sequence
  | .object _ => .ok .map
  | .malformed => .error .notJson

/-- Refuses the document as not being what is expected. -/
def mismatch (expected : String) (document : Document) : Except DecodeError α := do
  .error (.wrongType (← found document) expected)

/-! ### Scalars -/

/-- A text. -/
def string : Decoder String
  | _, .scalar (.string (some text)) => .ok text
  | _, document => mismatch "a string" document

/-- A truth value. -/
def boolean : Decoder Bool
  | _, .scalar (.bool value) => .ok value
  | _, document => mismatch "a boolean" document

/-- A natural number below the limit; `expected` names the range in errors. -/
def natural (limit : Nat) (expected : String) : Decoder Nat
  | _, .scalar (.number (some (.integer value))) =>
    if 0 ≤ value ∧ value < limit then .ok value.toNat
    else .error (.wrongValue (.integer value) expected)
  | _, document => mismatch expected document

/-- A 64-bit word. -/
def word64 : Decoder UInt64 := fun origin document =>
  (natural UInt64.size "u64" origin document).map UInt64.ofNat

/-- A 32-bit word. -/
def word32 : Decoder UInt32 := fun origin document =>
  (natural UInt32.size "u32" origin document).map UInt32.ofNat

/-- Nothing, written as null. -/
def unit : Decoder Unit
  | _, .scalar .null => .ok ()
  | _, document => mismatch "unit" document

/-- Null stands for nothing. -/
def nullable (decode : Decoder α) : Decoder (Option α)
  | _, .scalar .null => .ok none
  | origin, document => (decode origin document).map some

/-- A text whose content is read further. -/
def ofString (read : String → Except String α) : Decoder α := fun origin document => do
  match read (← string origin document) with
  | .ok value => .ok value
  | .error reason => .error (.refused reason)

@[simp] theorem string_toDocument (origin : Origin) (text : String) :
    string origin (.scalar (.string (some text))) = .ok text := rfl

@[simp] theorem boolean_toDocument (origin : Origin) (value : Bool) :
    boolean origin (.scalar (.bool value)) = .ok value := rfl

/-! ### Sequences -/

/-- Decodes items one after the other. -/
def items (decode : Decoder α) (origin : Origin) : List Document → Except DecodeError (List α)
  | [] => .ok []
  | item :: rest => do
    let value ← decode origin item
    .ok (value :: (← items decode origin rest))

/-- An array of any length. -/
def sequence (decode : Decoder α) : Decoder (List α)
  | origin, .array documents => do items decode (← origin.enter) documents
  | _, document => mismatch "a sequence" document

/-! ### Enumerations -/

/-- The variant with the given name. -/
def variant (variants : List (String × α)) (name : String) : Except DecodeError α :=
  match variants.lookup name with
  | some value => .ok value
  | none => .error (.unknownVariant name (variants.map Prod.fst))

/-- One of several named values: its name, or an object with its name for null. -/
def enumeration (variants : List (String × α)) : Decoder α
  | _, .scalar (.string (some name)) => variant variants name
  | .text levels, .object ((.scalar (.string (some name)), content) :: rest) => do
    let origin ← Origin.enter (.text levels)
    let value ← variant variants name
    unit origin content
    match rest with
    | [] => .ok value
    | _ => .error .notJson
  | .text _, _ => .error .notJson
  | .value, .object [(.scalar (.string (some name)), content)] => do
    let value ← variant variants name
    unit .value content
    .ok value
  | .value, .object _ => .error (.wrongValue .map "map with a single key")
  | .value, document => mismatch "string or map" document

/-! ### Records -/

/-- A field of a record: its name, and the check of its value where it stands. -/
structure Field where
  name : String
  check : Decoder Unit

/-- The fields of a record, with the ways to put a value together from them. -/
structure Fields (α : Type) where
  /-- The fields, in order. -/
  list : List Field
  /-- The value, given the member for each name. -/
  ofMembers : Origin → (String → Option Document) → Except DecodeError α
  /-- The value and the items that are left over, given the items from the one with the given
  number on; the text says what array was expected. -/
  ofItems : Origin → (expected : String) → (index : Nat) → List Document →
    Except DecodeError (α × List Document)

namespace Fields

/-- No fields. -/
def pure (value : α) : Fields α where
  list := []
  ofMembers _ _ := .ok value
  ofItems _ _ _ items := .ok (value, items)

/-- First the fields of a function, then those of its argument. -/
def and (f : Fields (α → β)) (x : Fields α) : Fields β where
  list := f.list ++ x.list
  ofMembers origin members := do
    let f ← f.ofMembers origin members
    let x ← x.ofMembers origin members
    .ok (f x)
  ofItems origin expected index items := do
    let (g, items) ← f.ofItems origin expected index items
    let (y, items) ← x.ofItems origin expected (index + f.list.length) items
    .ok (g y, items)

/-- A field that has to be there. -/
def required (name : String) (decode : Decoder α) : Fields α where
  list := [⟨name, fun origin document => (decode origin document).map fun _ => ()⟩]
  ofMembers origin members :=
    match members name with
    | some document => decode origin document
    | none => .error (.missingField name)
  ofItems origin expected index
    | document :: rest => (decode origin document).map (·, rest)
    | [] => .error (.wrongLength index expected)

/-- A field that has a default. -/
def optional (name : String) (decode : Decoder α) (default : α) : Fields α where
  list := [⟨name, fun origin document => (decode origin document).map fun _ => ()⟩]
  ofMembers origin members :=
    match members name with
    | some document => decode origin document
    | none => .ok default
  ofItems origin _ _
    | document :: rest => (decode origin document).map (·, rest)
    | [] => .ok (default, [])

end Fields

/-- The members of an object that have the name of a field, last first, each checked where it
stands. What is done with other members is up to `skip`. -/
def readMembers {σ : Type} (fields : List Field)
    (skip : σ → String → Document → Except DecodeError σ) (origin : Origin) :
    List (Document × Document) → List (String × Document) → σ →
      Except DecodeError (List (String × Document) × σ)
  | [], known, state => .ok (known, state)
  | (.scalar (.string (some name)), value) :: rest, known, state =>
    match fields.find? (·.name == name) with
    | some field =>
      if (known.lookup name).isSome then .error (.duplicateField name)
      else do
        field.check origin value
        readMembers fields skip origin rest ((name, value) :: known) state
    | none => do
      let state ← skip state name value
      readMembers fields skip origin rest known state
  | _ :: _, _, _ => .error .notJson

/-- Passes over a value, which only has to be sound. -/
def passOver (_ : Unit) (_ : String) (value : Document) : Except DecodeError Unit :=
  if value.isSound then .ok () else .error .notJson

/-- What is said when an array is too long for a record. -/
def tooLong (origin : Origin) (length : Nat) : DecodeError :=
  match origin with
  | .text _ => .notJson
  | .value => .wrongLength length "fewer elements in array"

/-- A record with the given name. -/
def record (name : String) (fields : Fields α) : Decoder α
  | origin, .object members => do
    let origin ← origin.enter
    let (known, ()) ← readMembers fields.list passOver origin members [] ()
    fields.ofMembers origin (known.lookup ·)
  | origin, .array items => do
    let origin' ← origin.enter
    let count := fields.list.length
    let elements := if count = 1 then "element" else "elements"
    let expected := s!"struct {name} with {count} {elements}"
    match ← fields.ofItems origin' expected 0 items with
    | (value, []) => .ok value
    | _ => .error (tooLong origin items.length)
  | _, document => mismatch s!"struct {name}" document

end Decoder

/-! ### Any value -/

/-- Puts a member into a list that is sorted by name; a member of the same name is replaced. -/
def insertMember (name : String) (value : Json) : List (String × Json) → List (String × Json)
  | [] => [(name, value)]
  | (other, old) :: rest =>
    if name = other then (name, value) :: rest
    else if name < other then (name, value) :: (other, old) :: rest
    else (other, old) :: insertMember name value rest

mutual

/-- Any value. The members of objects are sorted by name, and of those with one name the last one
counts. -/
def decodeAny (origin : Origin) : Document → Except DecodeError Json
  | .scalar .null => .ok .null
  | .scalar (.bool value) => .ok (.bool value)
  | .scalar (.number (some value)) => .ok (.number value)
  | .scalar (.string (some text)) => .ok (.string text)
  | .scalar (.number none) => .error .notJson
  | .scalar (.string none) => .error .notJson
  | .array items => do .ok (.array (← decodeItems (← origin.enter) items))
  | .object members => do .ok (.object (← decodeMembers (← origin.enter) [] members))
  | .malformed => .error .notJson

/-- Any values. -/
def decodeItems (origin : Origin) : List Document → Except DecodeError (List Json)
  | [] => .ok []
  | item :: rest => do
    let value ← decodeAny origin item
    .ok (value :: (← decodeItems origin rest))

/-- Any members, put into those read so far. -/
def decodeMembers (origin : Origin) (sofar : List (String × Json)) :
    List (Document × Document) → Except DecodeError (List (String × Json))
  | [] => .ok sofar
  | (.scalar (.string (some name)), value) :: rest => do
    let value ← decodeAny origin value
    decodeMembers origin (insertMember name value sofar) rest
  | _ :: _ => .error .notJson

end

namespace Decoder

variable {α γ : Type}

/-- Keeps a member for later, after reading all of it. -/
def keepMember (origin : Origin) (kept : List (String × Json)) (name : String) (value : Document) :
    Except DecodeError (List (String × Json)) := do
  .ok (kept ++ [(name, ← decodeAny origin value)])

/-- A record that has the fields of another record among its own. Its own fields are read first;
all other members are kept and the inner record is put together from them, in the order in which
they stand. It is never written as an array. -/
def flattened (name : String) (outer : Fields (γ → α)) (inner : Fields γ) : Decoder α
  | origin, .object members => do
    let origin ← origin.enter
    let (known, kept) ← readMembers outer.list (keepMember origin) origin members [] []
    let f ← outer.ofMembers origin (known.lookup ·)
    let (known, ()) ←
      readMembers inner.list (fun _ _ _ => .ok ()) .value (memberDocuments kept) [] ()
    let x ← inner.ofMembers .value (known.lookup ·)
    .ok (f x)
  | _, document => mismatch s!"struct {name}" document

/-! ### Texts and values -/

/-- How deep a text may be nested, plus one. -/
def levelLimit : Nat := 128

/-- Decodes a text, which may hold nothing else. -/
def ofText (decode : Decoder α) (text : String) : Except DecodeError α := do
  let (document, rest) := Document.ofText text
  let value ← decode (.text levelLimit) document
  if rest.isEmpty then .ok value else .error .notJson

/-- Only the document counts that the text holds. -/
theorem ofText_congr (decode : Decoder α) {text text' : String}
    (h : Document.ofText text = Document.ofText text') :
    decode.ofText text = decode.ofText text' := by
  unfold ofText
  rw [h]

/-- Decodes a JSON value. -/
def ofValue (decode : Decoder α) (value : Json) : Except DecodeError α :=
  decode .value value.toDocument

end Decoder

/-- Reads a text as any value. -/
def parse (text : String) : Except DecodeError Json := Decoder.ofText decodeAny text

end Remit.Json
