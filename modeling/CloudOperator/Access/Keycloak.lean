import CloudOperator.Access.Credentials
import CloudOperator.Access.Token
import CloudOperator.Http.Form
import CloudOperator.Http.Request
import CloudOperator.Json.Reader
import CloudOperator.Text.Blank

/-!
# The identity provider

The exchange of credentials for a token at the token endpoint of a realm.
-/

namespace CloudOperator

namespace Keycloak

/-- The address of the token endpoint of a realm. -/
def tokenAddress (address realm : String) : String :=
  trimTrailingSlashes address ++ "/realms/" ++ realm ++ "/protocol/openid-connect/token"

/-- The form by which a client asks for a token. -/
def form (c : Credentials) : String :=
  Form.encode [
    ("grant_type", "client_credentials"), ("client_id", c.clientId),
    ("client_secret", c.clientSecret)]

/-- What the answer to a request for a token comes to. -/
def tokenOf (c : Credentials) (r : Response) : Except AccessFailure AccessToken :=
  if ¬ r.isSuccess then
    .error (.identityProvider
      ("token exchange for client " ++ c.clientId ++ " failed with " ++ HttpStatus.text r.status
        ++ ": " ++ trimBlanks r.body))
  else
    match (Json.read r.body).bind AccessToken.codec.decode with
    | some token => .ok token
    | none => .error (.http "the answer holds no token")

/-- A client logs in to a realm. -/
def logIn (address : String) (c : Credentials) (realm : String) :
    Network (Except AccessFailure AccessToken) := do
  match ← HttpRequest.send .post (tokenAddress address realm) [HttpRequest.formHeader] (form c) with
  | .error detail => return .error (.http detail)
  | .ok answer => return tokenOf c answer

end Keycloak

end CloudOperator
