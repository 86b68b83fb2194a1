import Remit.Bytes
import Remit.Decimal.Natural
import Remit.Error
import Remit.Node.Request
import Remit.Text.Blank
import Remit.Text.Hex

/-!
# Requests as bytes

How a request to a node is written for a connection, and how the answer is read from all the bytes
that came back before the node closed the connection. This is as much of HTTP/1.1 as one request
for a connection needs: a body is as long as a header says, or comes in chunks, or ends where the
connection ends.

## Main statements

* `length_of_line?`: what follows a line is shorter than what the line was taken from.
-/

namespace Remit.Node.Http

/-! ### Where to connect -/

/-- What the address of a node says. -/
structure Origin where
  host : String
  /-- The number behind the colon. -/
  service : String
  /-- What the paths of requests are appended to. -/
  base : String
  deriving DecidableEq

/-- What plain addresses start with. -/
def scheme : List Char := ['h', 't', 't', 'p', ':', '/', '/']

/-- Takes an address apart, if it is one that can be reached without encryption. -/
def Origin.ofUrl? (url : String) : Option Origin :=
  if url.toList.take scheme.length = scheme then
    let rest := url.toList.drop scheme.length
    let authority := rest.takeWhile (· ≠ '/')
    let host := authority.takeWhile (· ≠ ':')
    let service := (authority.dropWhile (· ≠ ':')).drop 1
    if host.isEmpty then none
    else if service.isEmpty then
      some ⟨String.ofList host, "80", String.ofList (rest.dropWhile (· ≠ '/'))⟩
    else if (Decimal.natural? service).isSome then
      some ⟨String.ofList host, String.ofList service, String.ofList (rest.dropWhile (· ≠ '/'))⟩
    else none
  else none

/-! ### Requests -/

/-- The lines before the body of a request. -/
def headLines (origin : Origin) (request : Request) (body : Option Bytes) : List String :=
  [s!"{request.method.name} {origin.base}{request.path} HTTP/1.1",
   s!"Host: {origin.host}:{origin.service}", "User-Agent: relyo/0.1.0", "Accept: */*",
   "Connection: close"] ++
    match body with
    | none => []
    | some body => ["Content-Type: application/json", s!"Content-Length: {body.length}"]

/-- The bytes of a request. -/
def encode (origin : Origin) (request : Request) : Bytes :=
  let body := request.body.map fun value => Bytes.ofText value.render
  Bytes.ofText (String.join ((headLines origin request body).map (· ++ "\r\n")) ++ "\r\n") ++
    body.getD []

/-! ### Lines -/

/-- The first line, whose bytes are taken for characters, and what follows it. A line ends in a
line feed, before which a carriage return may stand. -/
def line? (bytes : Bytes) : Option (List Char × Bytes) :=
  match bytes.dropWhile (· ≠ 10) with
  | [] => none
  | _ :: rest =>
    let line := (bytes.takeWhile (· ≠ 10)).map fun byte => Char.ofNat byte.toNat
    some (if line.getLast? = some '\r' then line.dropLast else line, rest)

theorem length_of_line? {bytes rest : Bytes} {line : List Char}
    (h : line? bytes = some (line, rest)) : rest.length < bytes.length := by
  unfold line? at h
  split at h
  · cases h
  · rename_i heq
    have := (List.dropWhile_suffix (l := bytes) (· ≠ 10)).length_le
    simp only [Option.some.injEq, Prod.mk.injEq] at h
    rw [heq, List.length_cons] at this
    rw [← h.2]; omega

/-- The lines up to the first empty one, and what follows that. -/
def headAndRest? (bytes : Bytes) : Option (List (List Char) × Bytes) :=
  match h : line? bytes with
  | none => none
  | some ([], rest) => some ([], rest)
  | some (line, rest) => do
    have := length_of_line? h
    let (lines, rest) ← headAndRest? rest
    return (line :: lines, rest)
termination_by bytes.length

/-! ### Headers -/

/-- The name of a header in lowercase, and its value. -/
def header (line : List Char) : List Char × List Char :=
  (Text.asciiLowercase (line.takeWhile (· ≠ ':')),
    Text.trim ((line.dropWhile (· ≠ ':')).drop 1))

/-- The value of the first header with a name that is given in lowercase. -/
def headerValue? (headers : List (List Char × List Char)) (name : String) : Option (List Char) :=
  headers.lookup name.toList

/-- The status in the first line of an answer. -/
def status? (line : List Char) : Option UInt16 :=
  if line.take 7 = ['H', 'T', 'T', 'P', '/', '1', '.'] then
    let digits := ((line.dropWhile (· ≠ ' ')).drop 1).takeWhile (· ≠ ' ')
    ((Decimal.natural? digits).filter fun n => 100 ≤ n ∧ n < 1000).map UInt16.ofNat
  else none

/-! ### Bodies -/

/-- The number of bytes in a chunk, from the line before it. -/
def chunkSize? (line : List Char) : Option Nat :=
  let digits := Text.trim (line.takeWhile (· ≠ ';'))
  if digits.isEmpty then none
  else digits.foldlM (fun n c => (Hex.digitValue? c).map fun d => 16 * n + d.toNat) 0

/-- The bytes of a body that comes in chunks, if all of them are there. -/
def chunks? (bytes : Bytes) : Option Bytes :=
  match h : line? bytes with
  | none => none
  | some (line, rest) => do
    have := length_of_line? h
    let size ← chunkSize? line
    if size = 0 then return []
    if rest.length < size then none
    else
      match h' : line? (rest.drop size) with
      | some ([], next) =>
        have := length_of_line? h'
        have : (rest.drop size).length ≤ rest.length := by simp
        return rest.take size ++ (← chunks? next)
      | _ => none
termination_by bytes.length

/-- The bytes of a body, if all of them are there. -/
def body? (headers : List (List Char × List Char)) (rest : Bytes) : Option Bytes :=
  match headerValue? headers "transfer-encoding", headerValue? headers "content-length" with
  | some coding, _ =>
    if Text.asciiLowercase coding = ['c', 'h', 'u', 'n', 'k', 'e', 'd'] then chunks? rest else none
  | none, some length => do
    let length ← Decimal.natural? length
    if rest.length < length then none else some (rest.take length)
  | none, none => some rest

/-! ### Answers -/

/-- Why no answer can be read. -/
inductive Flaw where
  /-- It does not start as answers do. -/
  | garbled
  /-- The body is incomplete, or no text. -/
  | unreadableBody
  deriving DecidableEq

/-- Reads an answer. -/
def decode (bytes : Bytes) : Except Flaw Response :=
  match headAndRest? bytes with
  | some (first :: lines, rest) =>
    match status? first with
    | none => .error .garbled
    | some status =>
      match (body? (lines.map header) rest).bind Bytes.toText? with
      | none => .error .unreadableBody
      | some body => .ok ⟨status, body⟩
  | _ => .error .garbled

/-- What a flaw means for the request that was to be answered. -/
def Flaw.error (request : Request) : Flaw → Error
  | garbled => .unreached s!"{request.description}: the answer is not HTTP"
  | unreadableBody =>
    .unreached s!"{request.description}: reading body: it is incomplete or no text"

end Remit.Node.Http
