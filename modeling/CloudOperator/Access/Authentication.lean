import CloudOperator.Operation

/-!
# Authentication

How a pass comes to a bearer token for its tenant: the cached one while it can be
used, else one that is exchanged for the credentials in the tenant's secret.
-/

namespace CloudOperator

namespace TokenCache

/-- The token of a tenant that can be used, counted if there is one. -/
def hit? (cache : TokenCache) (tenant : String) (now : Instant) : Pass (Option String) := do
  let token ← Program.ofOption (cache.active? tenant now)
  if token.isSome then Pass.count .tokenCacheHits
  return token

/-- A login with credentials, and the cache after it. -/
def exchange (cache : TokenCache) (tenant : String) (credentials : Credentials) (realm : String)
    (now : Instant) : Pass (Except AccessFailure String × TokenCache) := do
  match ← Pass.perform (.logIn credentials realm) with
  | .error cause =>
    Pass.count (.tokenExchanges "error")
    return (.error cause, cache)
  | .ok token =>
    Pass.count (.tokenExchanges "success")
    return (.ok token.value, cache.store tenant token now)

/-- The credentials in the secret of a tenant. -/
def credentials (tenant : String) : Pass (Except AccessFailure Credentials) := do
  match ← Pass.perform (.readSecret tenant) with
  | .error cause => return .error cause
  | .ok secret => return Credentials.ofSecret tenant secret

/-- A token for a tenant, and the cache after it. -/
def authenticate (cache : TokenCache) (tenant : String) (realm : String) (now : Instant) :
    Pass (Except AccessFailure String × TokenCache) := do
  match ← cache.hit? tenant now with
  | some token => return (.ok token, cache)
  | none =>
    match ← credentials tenant with
    | .error cause => return (.error cause, cache)
    | .ok credentials => cache.exchange tenant credentials realm now

end TokenCache

end CloudOperator
