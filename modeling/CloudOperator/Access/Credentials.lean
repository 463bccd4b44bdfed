import CloudOperator.Access.Failure
import CloudOperator.Text.Summary

/-!
# Credentials

The credentials by which a tenant's client logs in, taken from the secret of the
tenant.
-/

namespace CloudOperator

/-- A secret: texts by name. -/
abbrev Secret :=
  List (String × String)

/-- The credentials of a client. -/
structure Credentials where
  clientId : String
  clientSecret : String
deriving DecidableEq, Repr

namespace Credentials

/-- The name of the identifier of a client in a secret. -/
def idKey : String :=
  "client-id"

/-- The name of the secret of a client in a secret. -/
def secretKey : String :=
  "client-secret"

/-- A value of a secret that must not be empty. -/
def required (tenant : String) (secret : Secret) (key : String) :
    Except AccessFailure String :=
  match secret.lookup key with
  | some value =>
    if value = "" then .error (.missingCredential tenant key) else .ok value
  | none => .error (.missingCredential tenant key)

/-- The credentials that the secret of a tenant holds. -/
def ofSecret (tenant : String) (secret : Secret) : Except AccessFailure Credentials :=
  match required tenant secret idKey with
  | .error cause => .error cause
  | .ok clientId =>
    match required tenant secret secretKey with
    | .error cause => .error cause
    | .ok clientSecret => .ok ⟨clientId, clientSecret⟩

/-- Credentials on one line, without the secret. -/
def summary (c : Credentials) : String :=
  Summary.whole "ClientCredentials" [
    ("client_id", quoted c.clientId), ("client_secret", Summary.hidden)]

end Credentials

end CloudOperator
