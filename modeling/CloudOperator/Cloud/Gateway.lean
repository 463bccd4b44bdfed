import CloudOperator.Cloud.Request
import CloudOperator.Http.Request
import CloudOperator.Text.Blank

/-!
# The gateway

How requests to the remote API go over the network: to the address of a gateway, with
the token of the tenant in a header.
-/

namespace CloudOperator

namespace Gateway

/-- The headers of a request. -/
def headers (r : Request) : List (String × String) :=
  [("authorization", "Bearer " ++ r.bearer), ("accept", "application/json")]
    ++ if r.body.isSome then [HttpRequest.jsonHeader] else []

/-- The body of a request as it is sent. -/
def bodyText (r : Request) : String :=
  (r.body.map Json.write).getD ""

/-- A request to the API behind a gateway. -/
def send (address : String) (r : Request) : Network (Except String Response) := do
  match ← HttpRequest.send r.method (trimTrailingSlashes address ++ r.path) (headers r)
      (bodyText r) with
  | .error detail => return .error (r.label ++ " failed: " ++ detail)
  | .ok answer => return .ok answer

end Gateway

end CloudOperator
