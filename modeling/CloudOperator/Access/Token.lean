import CloudOperator.Codec.Fields
import CloudOperator.Table
import CloudOperator.Text.Summary

/-!
# Tokens

Bearer tokens, and the cache that keeps the last one of every tenant.  A token
counts as expired ten seconds before its lifetime ends.
-/

namespace CloudOperator

/-- A bearer token as the identity provider issues it. -/
structure AccessToken where
  value : String
  /-- The lifetime in seconds. -/
  expiresIn : Int64
deriving DecidableEq, Repr

namespace AccessToken

/-- The fields of a token. -/
def fields : Fields AccessToken :=
  (Fields.required "access_token" .text >> Fields.required "expires_in" .int64).as
    (fun (value, expiresIn) => ⟨value, expiresIn⟩) (fun t => (t.value, t.expiresIn))

/-- Tokens as records. -/
def codec : Codec AccessToken :=
  .record fields

/-- A token on one line, without its value. -/
def summary (t : AccessToken) : String :=
  Summary.whole "AccessToken" [
    ("access_token", Summary.hidden), ("expires_in", toString t.expiresIn.toInt)]

end AccessToken

/-- A token and the time at which it was received. -/
structure CachedToken where
  token : AccessToken
  received : Instant
deriving DecidableEq, Repr

namespace CachedToken

/-- The seconds at the end of its lifetime in which a token is not used any more. -/
abbrev safetyMargin : Int := 10

/-- The time from which on a token is not used any more, if it is in the calendar. -/
def expiry? (t : CachedToken) : Option Instant := do
  let lifetime ← spanOfSeconds? t.token.expiresIn.toInt
  (← t.received.add? lifetime).add? (-(safetyMargin * nanosPerSecond))

/-- Whether a token is not used any more, if the calendar tells. -/
def isExpired? (t : CachedToken) (now : Instant) : Option Bool :=
  t.expiry?.map fun expiry => decide (expiry ≤ now)

end CachedToken

/-- The last token of every tenant that has one. -/
abbrev TokenCache :=
  Table String CachedToken

namespace TokenCache

/-- The token of a tenant that can be used, if it has one.  The outer option is
empty if the time at which the token expires is not in the calendar. -/
def active? (cache : TokenCache) (tenant : String) (now : Instant) : Option (Option String) :=
  match Table.find? cache tenant with
  | none => some none
  | some cached => (cached.isExpired? now).map fun expired =>
    if expired then none else some cached.token.value

/-- The cache after a token was received for a tenant. -/
def store (cache : TokenCache) (tenant : String) (token : AccessToken) (now : Instant) :
    TokenCache :=
  Table.insert cache tenant ⟨token, now⟩

end TokenCache

end CloudOperator
