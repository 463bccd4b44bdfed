import CloudOperator.Access.Authentication

/-!
# Logins side by side

Tokens for several tenants at a time.  The exchanges of one tenant happen one after
the other: each waits in the queue of its tenant until it is at the head, and looks
into the cache again then.  A login halts where it waits for its turn, for a secret
or for the identity provider; `Login.resume` leads from one halt to the next.
-/

namespace CloudOperator

/-- What a login exchanges for a token. -/
inductive LoginSource where
  /-- The credentials in the secret of the tenant, unless a token is cached. -/
  | secret
  /-- Given credentials, unless a token is cached and may be used. -/
  | given (credentials : Credentials) (useCache : Bool)
deriving DecidableEq, Repr

/-- Whether a cached token may be used. -/
def LoginSource.usesCache : LoginSource → Bool
  | secret => true
  | given _ useCache => useCache

/-- Where a login halts. -/
inductive LoginStage where
  /-- Before its beginning. -/
  | start
  /-- In the queue of its tenant. -/
  | queued
  /-- Inside the read of the secret. -/
  | reading
  /-- Inside the exchange of credentials. -/
  | exchanging (credentials : Credentials)
  /-- At its end. -/
  | finished (result : Except AccessFailure String)

/-- One of several logins. -/
structure Login where
  /-- The number of the login among all. -/
  number : Nat
  tenant : String
  source : LoginSource
  stage : LoginStage

/-- What logins share: the cached tokens, and for every tenant the numbers of the
logins that have their turn or wait for it. -/
structure LoginHall where
  tokens : TokenCache
  queues : Table String (List Nat)

namespace LoginHall

/-- The queue of a tenant. -/
def queue (hall : LoginHall) (tenant : String) : List Nat :=
  (Table.find? hall.queues tenant).getD []

/-- A login joins the queue of its tenant. -/
def join (hall : LoginHall) (l : Login) : LoginHall :=
  { hall with queues := Table.insert hall.queues l.tenant (hall.queue l.tenant ++ [l.number]) }

/-- A login leaves the queue of its tenant. -/
def leave (hall : LoginHall) (l : Login) : LoginHall :=
  { hall with queues := Table.insert hall.queues l.tenant ((hall.queue l.tenant).erase l.number) }

/-- Whether it is the turn of a login. -/
def isTurnOf (hall : LoginHall) (l : Login) : Bool :=
  (hall.queue l.tenant).head? = some l.number

end LoginHall

namespace Login

/-- The result of a login that is at its end. -/
def result? (l : Login) : Option (Except AccessFailure String) :=
  match l.stage with
  | .finished result => some result
  | _ => none

/-- The cached token that a login may use, if there is one. -/
def hit? (l : Login) (hall : LoginHall) (now : Instant) : Pass (Option String) :=
  if l.source.usesCache then hall.tokens.hit? l.tenant now else return none

/-- The login halting at a stage. -/
def halt (l : Login) (stage : LoginStage) : Login :=
  { l with stage }

/-- The login leaves the queue with a result. -/
def finish (l : Login) (hall : LoginHall) (result : Except AccessFailure String) :
    Login × LoginHall :=
  (l.halt (.finished result), hall.leave l)

/-- The login in its queue goes on if it is its turn. -/
def takeTurn (l : Login) (hall : LoginHall) (now : Instant) : Pass (Login × LoginHall) := do
  if ¬ hall.isTurnOf l then return (l.halt .queued, hall)
  match ← l.hit? hall now with
  | some token => return l.finish hall (.ok token)
  | none =>
    match l.source with
    | .secret => return (l.halt .reading, hall)
    | .given credentials _ => return (l.halt (.exchanging credentials), hall)

/-- The login and what is shared, at the next halt of the login. -/
def resume (l : Login) (hall : LoginHall) (realm : String) (now : Instant) :
    Pass (Login × LoginHall) := do
  match l.stage with
  | .start =>
    match ← l.hit? hall now with
    | some token => return (l.halt (.finished (.ok token)), hall)
    | none => takeTurn l (hall.join l) now
  | .queued => takeTurn l hall now
  | .reading =>
    match ← TokenCache.credentials l.tenant with
    | .error cause => return l.finish hall (.error cause)
    | .ok credentials => return (l.halt (.exchanging credentials), hall)
  | .exchanging credentials =>
    let (result, tokens) ← hall.tokens.exchange l.tenant credentials realm now
    return l.finish { hall with tokens } result
  | .finished _ => return (l, hall)

/-- Every login is resumed once, in order. -/
def resumeAll (realm : String) (now : Instant) :
    List Login → LoginHall → Pass (List Login × LoginHall)
  | [], hall => return ([], hall)
  | l :: ls, hall => do
    let (l, hall) ← l.resume hall realm now
    let (ls, hall) ← resumeAll realm now ls hall
    return (l :: ls, hall)

/-- The logins after a number of rounds. -/
def rounds (realm : String) (now : Instant) :
    Nat → List Login → LoginHall → Pass (List Login × LoginHall)
  | 0, ls, hall => return (ls, hall)
  | n + 1, ls, hall => do
    let (ls, hall) ← resumeAll realm now ls hall
    rounds realm now n ls hall

/-- The results of logins that take place side by side, and the cache after them.  In
every round one login of each tenant gets ahead, and none halts more than three
times in its turn. -/
def together (cache : TokenCache) (realm : String) (now : Instant)
    (requests : List (String × LoginSource)) :
    Pass (List (Except AccessFailure String) × TokenCache) := do
  let logins := (requests.zip (List.range requests.length)).map
    fun ((tenant, source), number) => (⟨number, tenant, source, .start⟩ : Login)
  let (logins, hall) ← rounds realm now (3 * requests.length) logins ⟨cache, []⟩
  return (logins.filterMap result?, hall.tokens)

end Login

end CloudOperator
