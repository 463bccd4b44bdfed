import CloudOperator.Access.Credentials
import CloudOperator.Codec.Fields
import CloudOperator.Http.Request
import CloudOperator.Json.Limits
import CloudOperator.Json.Reader
import CloudOperator.Text.Blank
import CloudOperator.Text.Summary
import CloudOperator.Time.Instant

/-!
# The secret store

How the secret of a tenant is read.  The operator logs in first, and keeps the token
of the login until shortly before its lease ends or until a read is forbidden.  The
name of a tenant that could lead out of its own secret is refused before any request.
-/

namespace CloudOperator

/-- How the secret store is reached. -/
structure VaultSettings where
  address : String
  /-- The namespace of the operator in the store, empty for none. -/
  ns : String
  rolePath : String
  roleId : String
  roleSecret : String
  kvMount : String
deriving DecidableEq, Repr

/-- The settings on one line, without the secret. -/
def VaultSettings.summary (s : VaultSettings) : String :=
  Summary.whole "VaultSettings" [
    ("address", quoted s.address), ("namespace", quoted s.ns), ("role_path", quoted s.rolePath),
    ("role_id", quoted s.roleId), ("role_secret", Summary.hidden),
    ("kv_mount", quoted s.kvMount)]

/-- The token of a login, and the time from which on it is not used any more. -/
structure VaultToken where
  value : String
  expiry : Instant
deriving DecidableEq, Repr

/-- What the answer to a login tells. -/
structure VaultLease where
  token : String
  /-- The length of the lease in seconds; without one the token does not expire. -/
  seconds : Int64
deriving DecidableEq, Repr

namespace VaultLease

/-- The fields of the token in the answer to a login. -/
def fields : Fields VaultLease :=
  (Fields.required "client_token" .text >> Fields.defaulted "lease_duration" .int64 0).as
    (fun (token, seconds) => ⟨token, seconds⟩) (fun l => (l.token, l.seconds))

/-- The answer to a login. -/
def codec : Codec VaultLease :=
  .record (Fields.required "auth" (.record fields))

/-- The seconds of a year, for which a token without a lease is used. -/
abbrev year : Int := 365 * secondsPerDay

/-- The span for which a token is used, nine tenths of its lease, if it is a span. -/
def span? (l : VaultLease) : Option Int :=
  if 0 < l.seconds.toInt then (spanOfSeconds? l.seconds.toInt).map fun span => (span * 9).tdiv 10
  else spanOfSeconds? year

end VaultLease

namespace Vault

/-- Whether a character can lead out of the secret of a tenant. -/
def isStray (c : Char) : Bool :=
  ['/', '\\', '?', '#', '%'].contains c || isBlank c || isControl c

/-- Whether a tenant has a secret of its own. -/
def isTenant (tenant : String) : Bool :=
  ¬ ["", ".", ".."].contains tenant && ¬ tenant.toList.any isStray

/-- The address of a path in the store. -/
def address (s : VaultSettings) (path : String) : String :=
  trimTrailingSlashes s.address ++ "/v1/" ++ path

/-- The headers of every request. -/
def headers (s : VaultSettings) : List (String × String) :=
  if s.ns = "" then [] else [("x-vault-namespace", s.ns)]

/-- The body of a login. -/
def loginBody (s : VaultSettings) : Json :=
  .object [("role_id", .text s.roleId), ("secret_id", .text s.roleSecret)]

/-- The request of a login. -/
def login (s : VaultSettings) : Network (Except String Response) :=
  HttpRequest.send .post (address s ("auth/" ++ s.rolePath ++ "/login"))
    (headers s ++ [HttpRequest.jsonHeader]) (loginBody s).write

/-- The request that reads the secret of a tenant. -/
def read (s : VaultSettings) (token tenant : String) : Network (Except String Response) :=
  HttpRequest.send .get (address s (s.kvMount ++ "/data/" ++ tenant))
    (headers s ++ [("x-vault-token", token)]) ""

/-- The lease that the answer to a login grants. -/
def leaseOf (s : VaultSettings) (r : Response) : Except AccessFailure VaultLease :=
  if ¬ r.isSuccess then
    .error (.secretStore
      ("AppRole login at " ++ s.rolePath ++ " failed with " ++ HttpStatus.text r.status))
  else
    match (Json.read r.body).bind VaultLease.codec.decode with
    | some lease => .ok lease
    | none => .error (.http "the answer grants no token")

/-- A value of a secret as a text. -/
def valueText : Json → String
  | .text value => value
  | json => json.canonical.write

/-- Values that are held in memory, two levels inside of an answer and in an object. -/
def heldValue : Codec Json :=
  { Codec.anything with decode := fun json => if json.fitsInside 3 then some json else none }

/-- The data in the answer to a read. -/
def secretCodec : Codec (List (String × Json)) :=
  .record <| Fields.required "data" <| .record <|
    Fields.defaulted "data" (.map heldValue) []

/-- The secret that the answer to a read holds. -/
def secretOf (tenant : String) (r : Response) : Except AccessFailure Secret :=
  if ¬ r.isSuccess then
    .error (.secretStore
      ("reading secret for tenant " ++ tenant ++ " failed with " ++ HttpStatus.text r.status))
  else
    match (Json.read r.body).bind secretCodec.decode with
    | some values => .ok (values.map fun (name, json) => (name, valueText json))
    | none => .error (.http "the answer holds no secret")

/-- The token that is kept, while it is used. -/
def usable? (kept : Option VaultToken) (now : Instant) : Option VaultToken :=
  kept.filter fun token => decide (now < token.expiry)

/-- A token for the store, and the token that is kept after it. -/
def token (s : VaultSettings) (kept : Option VaultToken) (now : Instant) :
    Network (Except AccessFailure String × Option VaultToken) := do
  match usable? kept now with
  | some token => return (.ok token.value, kept)
  | none =>
    match ← login s with
    | .error detail => return (.error (.http detail), kept)
    | .ok answer =>
      match leaseOf s answer with
      | .error cause => return (.error cause, kept)
      | .ok lease =>
        let expiry ← Program.ofOption (lease.span?.bind now.add?)
        return (.ok lease.token, some ⟨lease.token, expiry⟩)

/-- The secret of a tenant, and the token that is kept after the read.  A forbidden
read means that the token is of no use any more. -/
def secret (s : VaultSettings) (kept : Option VaultToken) (tenant : String) (now : Instant) :
    Network (Except AccessFailure Secret × Option VaultToken) := do
  if ¬ isTenant tenant then return (.error (.invalidTenant tenant), kept)
  match ← token s kept now with
  | (.error cause, kept) => return (.error cause, kept)
  | (.ok token, kept) =>
    match ← read s token tenant with
    | .error detail => return (.error (.http detail), kept)
    | .ok answer =>
      return (secretOf tenant answer, if answer.status = 403 then none else kept)

end Vault

end CloudOperator
