import CloudOperator.Text.Quoted

/-!
# Failures of authentication

The causes for which a tenant cannot be authenticated.
-/

namespace CloudOperator

/-- A cause for which a tenant cannot be authenticated. -/
inductive AccessFailure where
  /-- The identity provider refused. -/
  | identityProvider (detail : String)
  /-- The secret store refused. -/
  | secretStore (detail : String)
  /-- The name of the tenant cannot be part of a path. -/
  | invalidTenant (tenant : String)
  /-- The secret of the tenant lacks a value. -/
  | missingCredential (tenant key : String)
  /-- A server could not be reached or understood. -/
  | http (detail : String)
deriving DecidableEq, Repr

namespace AccessFailure

/-- The text of a cause. -/
def message : AccessFailure → String
  | identityProvider detail => "identity provider error: " ++ detail
  | secretStore detail => "secret store error: " ++ detail
  | invalidTenant tenant => "invalid tenant name " ++ quoted tenant
  | missingCredential tenant key => "secret for tenant " ++ tenant ++ " has no " ++ key
  | http detail => "http error: " ++ detail

end AccessFailure

end CloudOperator
