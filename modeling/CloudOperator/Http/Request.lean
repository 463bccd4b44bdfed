import CloudOperator.Cloud.Request
import CloudOperator.Http.Status
import CloudOperator.Http.Url
import CloudOperator.Json.Writer
import CloudOperator.Program

/-!
# Requests over the network

Requests to addresses, and programs of them.  A request whose address cannot be read
or whose headers hold control characters is never sent.
-/

namespace CloudOperator

/-- A request as it goes over the network. -/
structure HttpRequest where
  method : Method
  url : Url
  headers : List (String × String)
  body : String
deriving DecidableEq

/-- A program of requests.  Each is answered, or fails with a text that tells why. -/
abbrev Network (α : Type) :=
  Program (fun _ : HttpRequest => Except String Response) α

namespace HttpRequest

/-- Whether a text can be the value of a header. -/
def isHeaderValue (text : String) : Bool :=
  text.toList.all fun c => c == '\t' || (0x20 ≤ c.toNat && c.toNat ≠ 0x7F)

/-- The request with an address and headers, if they can be sent. -/
def build? (method : Method) (address : String) (headers : List (String × String))
    (body : String) : Option HttpRequest := do
  let url ← Url.read address
  if headers.all fun (_, value) => isHeaderValue value then return ⟨method, url, headers, body⟩
  else none

/-- The answer to a request with an address and headers. -/
def send (method : Method) (address : String) (headers : List (String × String))
    (body : String) : Network (Except String Response) :=
  match build? method address headers body with
  | some request => Program.question request
  | none => return .error "the request cannot be built"

/-- The header of a JSON body. -/
def jsonHeader : String × String :=
  ("content-type", "application/json")

/-- The header of a form. -/
def formHeader : String × String :=
  ("content-type", "application/x-www-form-urlencoded")

end HttpRequest

end CloudOperator
