import Remit.Json.Value

/-!
# Requests and responses

What is sent to a node, and what comes back, before anything is made of it. Paths start with a
slash and are relative to the address of the node.
-/

namespace Remit.Node

/-- What a request does. -/
inductive Method where
  | get
  | post
  deriving DecidableEq

/-- The name of a method. -/
def Method.name : Method → String
  | get => "GET"
  | post => "POST"

/-- One request to a node. -/
structure Request where
  method : Method
  path : String
  body : Option Json

namespace Request

/-- A request that only asks. -/
def get (path : String) : Request := ⟨.get, path, none⟩

/-- A request that submits something. -/
def post (path : String) (body : Json) : Request := ⟨.post, path, some body⟩

/-- The method and the path, by which errors name a request. -/
def description (request : Request) : String := s!"{request.method.name} {request.path}"

end Request

/-- What a node answers. -/
structure Response where
  status : UInt16
  body : String
  deriving DecidableEq

/-- The status is one of success. -/
def Response.isSuccess (response : Response) : Bool :=
  200 ≤ response.status && response.status < 300

end Remit.Node
