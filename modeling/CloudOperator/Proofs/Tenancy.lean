import CloudOperator.Proofs.Authentication
import CloudOperator.Proofs.Moves

/-!
# Tenants apart

Passes over objects of any tenants share the cached tokens.  Still every request carries a token
that was received for the credentials of the tenant of its object, the secret of a tenant is read
just where no valid token is cached for it, and a failed login leaves everything as it was
(`Passes.keep_tenants_apart`).

* `Task.asks_proceed` says that after the authentication a pass neither reads secrets nor logs in.
* `Turn.FindsTenant.poses_cases` tells what a pass asks, whether it is answered or not.
* `Turn.Goes.received` tells how a pass comes to a new token, and `Turn.Goes.tokens_eq` what it
  leaves to the next one.
* `Passes.received` says that a token is cached only for the tenant for whose credentials it was
  received.
-/

namespace CloudOperator

open Program

variable {K : Kind} {ns name : String}

/-! ## Credentials -/

/-- A secret holds the credentials of a client. -/
def Secret.Holds (secret : Secret) (credentials : Credentials) : Prop :=
  (secret.lookup Credentials.idKey = some credentials.clientId ∧ credentials.clientId ≠ "") ∧
    secret.lookup Credentials.secretKey = some credentials.clientSecret ∧
      credentials.clientSecret ≠ ""

theorem Credentials.required_eq_ok {tenant key value : String} {secret : Secret} :
  required tenant secret key = .ok value ↔ secret.lookup key = some value ∧ value ≠ ""
  := by
  rw [required]
  split
  · split
    · rename_i found empty
      rw [found]
      refine iff_of_false nofun ?_
      rintro ⟨⟨⟩, present⟩
      apply present empty
    · rename_i found present
      rw [found, Except.ok.injEq, Option.some_inj]
      refine ⟨?_, And.left⟩
      rintro rfl
      exact ⟨rfl, present⟩
  · rename_i missing
    rw [missing]
    exact iff_of_false nofun nofun

/-- The credentials of a tenant are those that its secret holds. -/
theorem Credentials.ofSecret_eq_ok {tenant : String} {secret : Secret}
    {credentials : Credentials} :
  ofSecret tenant secret = .ok credentials ↔ secret.Holds credentials
  := by
  have required := @required_eq_ok tenant
  rw [Secret.Holds, ← required, ← required, ofSecret]
  constructor
  · intro holds
    split at holds
    · cases holds
    · split at holds
      · cases holds
      · cases holds
        exact ⟨‹_›, ‹_›⟩
  · rintro ⟨id, value⟩
    rw [id, value]

theorem Credentials.bind_ofSecret_eq_ok {tenant : String} {secret? : Except AccessFailure Secret}
    {credentials : Credentials} :
  secret?.bind (ofSecret tenant) = .ok credentials ↔
    ∃ secret, secret? = .ok secret ∧ secret.Holds credentials
  := by
  cases secret? with
  | error cause => exact iff_of_false nofun nofun
  | ok secret =>
    constructor
    · exact fun holds => ⟨secret, rfl, ofSecret_eq_ok.mp holds⟩
    · rintro ⟨_, ⟨⟩, holds⟩
      exact ofSecret_eq_ok.mpr holds

/-- On the course a token is received for the credentials that the secret of a tenant holds. -/
def CachedToken.ReceivedOn (cached : CachedToken) (tenant realm : String) (course : Course) :
    Prop :=
  ∃ secret credentials, secret.Holds credentials ∧
    [⟨.readSecret tenant, .ok secret⟩, ⟨.logIn credentials realm, .ok cached.token⟩] <:+: course

/-- A tenant is not authenticated: a secret cannot be read or does not hold credentials, or these
are not exchanged for a token. -/
def Exchange.FailsAccess : Exchange Operation.Answer → Prop
  | ⟨.readSecret _, .error _⟩ | ⟨.logIn _ _, .error _⟩ => True
  | ⟨.readSecret _, .ok secret⟩ => ∀ credentials, ¬ secret.Holds credentials
  | _ => False

theorem Exchange.isAccess_of_failsAccess {exchange : Exchange Operation.Answer}
    (fails : exchange.FailsAccess) :
  exchange.question.isAccess
  := by
  unfold FailsAccess at fails
  split at fails
  · rfl
  · rfl
  · rfl
  · cases fails

/-! ## Courses of authentications -/

namespace TokenCache

variable {cache : TokenCache} {tenant realm : String} {now : Instant} {course : Course}

/-- An authentication reads no secret but that of its tenant. -/
theorem asks_credentials (tenant : String) :
  (credentials tenant).Asks fun operation =>
    ∀ tenant', operation = .readSecret tenant' → tenant' = tenant
  := by
  apply asks_question_bind
  · rintro _ ⟨⟩
    rfl
  rintro (cause | secret)
  · trivial
  · trivial

theorem asks_exchange (cache : TokenCache) (tenant : String) (credentials : Credentials)
    (realm : String) (now : Instant) :
  (cache.exchange tenant credentials realm now).Asks fun operation =>
    ∀ tenant, operation ≠ .readSecret tenant
  := by
  apply asks_question_bind
  · exact fun _ => nofun
  rintro (cause | token)
  · apply asks_question_bind
    · exact fun _ => nofun
    intro _
    trivial
  · apply asks_question_bind
    · exact fun _ => nofun
    intro _
    trivial

/-- An authentication reads the secret of its tenant if it finds no token that can be used, and
no other secret. -/
theorem poses_readSecret {tenant' : String} :
  (cache.authenticate tenant realm now).Poses course (.readSecret tenant') ↔
    tenant' = tenant ∧ cache.active? tenant now = some none
  := by
  rcases active : cache.active? tenant now with _ | _ | token
  · rw [authenticate, hit?, active]
    constructor
    · intro poses
      cases poses
    · rintro ⟨-, ⟨⟩⟩
  · rw [authenticate_of_miss active, poses_bind]
    constructor
    · rintro (reads | ⟨credentials?, first, second, -, -, poses⟩)
      · exact ⟨reads.asked (asks_credentials tenant) tenant' rfl, rfl⟩
      · cases credentials? with
        | error cause => cases poses
        | ok credentials => cases poses.asked (asks_exchange ..) tenant' rfl
    · rintro ⟨rfl, -⟩
      exact .inl (poses_question_bind.mpr (.inl rfl))
  · rw [authenticate_of_hit active]
    constructor
    · intro poses
      obtain ⟨⟨⟩⟩ | ⟨_, rest, -, ⟨⟩⟩ := poses_question_bind.mp poses
    · rintro ⟨-, ⟨⟩⟩

/-- The cache that is left where a token is obtained is that after the course. -/
theorem Obtains.eq_after {result? : Option (Except AccessFailure String × TokenCache)}
    (h : cache.Obtains tenant realm now course result?) {result : Except AccessFailure String}
    {tokens : TokenCache} (ends : result? = some (result, tokens)) :
  tokens = cache.after tenant now course
  := by
  cases h with
  | unanswered | read | exchanged => cases ends
  | unread fails =>
    cases ends
    rfl
  | counted holds answer counter =>
    cases answer with
    | error cause =>
      cases ends
      rfl
    | ok token =>
      cases ends
      rfl

/-- The cache after an authentication is that after its course. -/
theorem eq_after {result : Except AccessFailure String} {tokens : TokenCache}
    (h : (cache.authenticate tenant realm now).Takes course (some (result, tokens))) :
  tokens = cache.after tenant now course
  := by
  obtain ⟨-, ⟨⟩⟩ | ⟨token, -, rfl, ⟨⟩⟩ | ⟨-, obtains⟩ := takes_authenticate h
  · rfl
  · exact obtains.eq_after rfl

/-- A token that is cached after a login was cached before, or it is received there. -/
theorem received_of_store {secret? : Except AccessFailure Secret} {credentials : Credentials}
    (holds : secret?.bind (Credentials.ofSecret tenant) = .ok credentials) {token : AccessToken}
    {tenant' : String} {cached : CachedToken}
    (found : Table.find? (cache.store tenant token now) tenant' = some cached)
    (counted : Course) :
  Table.find? cache tenant' = some cached ∨
    tenant = tenant' ∧ cached.received = now ∧ cached.ReceivedOn tenant' realm
      (⟨.readSecret tenant, secret?⟩ :: ⟨.logIn credentials realm, .ok token⟩ :: counted)
  := by
  rw [find?_store] at found
  split at found
  · rename_i own
    subst own
    cases found
    obtain ⟨secret, rfl, held⟩ := Credentials.bind_ofSecret_eq_ok.mp holds
    exact .inr ⟨rfl, rfl, secret, credentials, held, [], counted, rfl⟩
  · exact .inl found

/-- A token that is cached after one was obtained was cached before, or it is received. -/
theorem Obtains.received {result? : Option (Except AccessFailure String × TokenCache)}
    (h : cache.Obtains tenant realm now course result?) {tenant' : String} {cached : CachedToken}
    (found : Table.find? (cache.after tenant now course) tenant' = some cached) :
  Table.find? cache tenant' = some cached ∨
    tenant = tenant' ∧ cached.received = now ∧ cached.ReceivedOn tenant' realm course
  := by
  cases h with
  | unanswered | unread | read => exact .inl found
  | exchanged holds answer | counted holds answer =>
    cases answer with
    | error cause => exact .inl found
    | ok token => exact received_of_store holds found _

/-- Where a login fails no token is obtained, and the cache stays as it is. -/
theorem Obtains.after_of_fails {result? : Option (Except AccessFailure String × TokenCache)}
    (h : cache.Obtains tenant realm now course result?)
    (fails : ∃ exchange ∈ course, exchange.FailsAccess) :
  cache.after tenant now course = cache ∧ ∀ bearer tokens, result? ≠ some (.ok bearer, tokens)
  := by
  have answered {secret? : Except AccessFailure Secret} {credentials : Credentials}
      (holds : secret?.bind (Credentials.ofSecret tenant) = .ok credentials) :
      ¬ Exchange.FailsAccess ⟨.readSecret tenant, secret?⟩ := by
    obtain ⟨secret, rfl, held⟩ := Credentials.bind_ofSecret_eq_ok.mp holds
    exact fun none => none credentials held
  cases h with
  | unanswered | unread | read => exact ⟨rfl, nofun⟩
  | exchanged holds answer =>
    cases answer with
    | error cause => exact ⟨rfl, nofun⟩
    | ok token =>
      obtain ⟨_, _ | ⟨_, _ | ⟨_, ⟨⟩⟩⟩, fails⟩ := fails
      · cases answered holds fails
      · cases fails
  | counted holds answer counter =>
    cases answer with
    | error cause => exact ⟨rfl, nofun⟩
    | ok token =>
      obtain ⟨_, _ | ⟨_, _ | ⟨_, _ | ⟨_, ⟨⟩⟩⟩⟩, fails⟩ := fails
      · cases answered holds fails
      · cases fails
      · cases fails

theorem after_of_fails {result? : Option (Except AccessFailure String × TokenCache)}
    (h : (cache.authenticate tenant realm now).Takes course result?)
    (fails : ∃ exchange ∈ course, exchange.FailsAccess) :
  cache.after tenant now course = cache ∧ ∀ bearer tokens, result? ≠ some (.ok bearer, tokens)
  := by
  obtain ⟨rfl, -⟩ | ⟨token, -, rfl, -⟩ | ⟨-, obtains⟩ := takes_authenticate h
  · simp at fails
  · simp [Exchange.FailsAccess] at fails
  · exact obtains.after_of_fails fails

/-- A token that is cached after an authentication was cached before, or it is received. -/
theorem received_of_after {result? : Option (Except AccessFailure String × TokenCache)}
    (h : (cache.authenticate tenant realm now).Takes course result?) {tenant' : String}
    {cached : CachedToken}
    (found : Table.find? (cache.after tenant now course) tenant' = some cached) :
  Table.find? cache tenant' = some cached ∨
    tenant = tenant' ∧ cached.received = now ∧ cached.ReceivedOn tenant' realm course
  := by
  obtain ⟨rfl, -⟩ | ⟨token, -, rfl, -⟩ | ⟨-, obtains⟩ := takes_authenticate h
  · exact .inl found
  · exact .inl found
  · exact obtains.received found

/-- A token that is obtained is cached for the tenant. -/
theorem Obtains.cached {result? : Option (Except AccessFailure String × TokenCache)}
    (h : cache.Obtains tenant realm now course result?) {bearer : String} {tokens : TokenCache}
    (ends : result? = some (.ok bearer, tokens)) :
  ∃ cached, Table.find? (cache.after tenant now course) tenant = some cached ∧
    cached.token.value = bearer
  := by
  cases h with
  | unanswered | read | exchanged | unread => cases ends
  | counted holds answer counter =>
    cases answer with
    | error cause => cases ends
    | ok token =>
      cases ends
      exact ⟨⟨token, now⟩, (find?_store ..).trans (if_pos rfl), rfl⟩

/-- The token that an authentication comes to is cached after it for the tenant. -/
theorem cached_of_authenticate {bearer : String} {tokens : TokenCache}
    (h : (cache.authenticate tenant realm now).Takes course (some (.ok bearer, tokens))) :
  ∃ cached, Table.find? (cache.after tenant now course) tenant = some cached ∧
    cached.token.value = bearer
  := by
  obtain ⟨-, ⟨⟩⟩ | ⟨token, active, rfl, ⟨⟩⟩ | ⟨-, obtains⟩ := takes_authenticate h
  · obtain ⟨cached, found, -, same⟩ := active?_eq_some.mp active
    exact ⟨cached, found, same⟩
  · apply obtains.cached rfl

end TokenCache

/-! ## What a pass asks -/

theorem Operation.isAccess_of_proceeding {may : Request → Prop} {operation : Operation}
    (proceeding : operation.SendsOnly may ∨ operation.isLocal) :
  operation.isAccess = false
  := proceeding.elim isAccess_of_sendsOnly isAccess_of_isLocal

/-- After the authentication a pass sends requests with the token that it got, and neither reads
secrets nor logs in. -/
theorem Task.asks_proceed (t : Task K) (settings : PassSettings) (actor : Actor)
    (now : Instant) :
  (t.proceed settings actor now).Asks fun operation =>
    operation.SendsOnly (·.bearer = actor.bearer) ∨ operation.isLocal
  := by
  cases preempting : t.object.preempting? settings now with
  | some move =>
    rw [proceed_of_preempting preempting]
    exact (t.asks_move ..).mono fun _ => .inr
  | none =>
    rw [proceed_of_unpreempted preempting]
    apply asks_bind
    · exact (Work.asks_ofPhase ..).mono fun _ => .inl
    · exact fun (_, o) => (asks_carryOut ..).mono fun _ => .inr

/-- With a token a pass sends requests that carry it, and neither reads secrets nor logs in. -/
theorem Memory.asks_serve (memory : Memory) (settings : PassSettings) (now : Instant) (ns : String)
    (o : Object K) (bearer : String) (tokens : TokenCache) :
  (memory.serve settings now ns o (.ok bearer, tokens)).Asks fun operation =>
    operation.SendsOnly (·.bearer = bearer) ∨ operation.isLocal
  := asks_bind (Task.asks_proceed _ settings ⟨bearer, ns⟩ now) fun _ => trivial

/-- After the authentication a pass neither reads secrets nor logs in. -/
theorem Memory.isAccess_serve (memory : Memory) (settings : PassSettings) (now : Instant)
    (ns : String) (o : Object K) (result : Except AccessFailure String × TokenCache) :
  (memory.serve settings now ns o result).Asks (·.isAccess = false)
  := by
  obtain ⟨cause | bearer, tokens⟩ := result
  · trivial
  · exact (memory.asks_serve ..).mono fun _ => Operation.isAccess_of_proceeding

namespace Turn

variable {t : Turn K} {rest : Course} {operation : Operation}

/-- The tenant of the object of a turn. -/
def tenant (t : Turn K) : String :=
  trimBlanks t.stored.tenant

/-- The turn asks something, whether it is answered or not. -/
def Poses (t : Turn K) (ns name : String) (operation : Operation) : Prop :=
  (t.memory.pass t.settings t.now K ns name).Poses t.course operation

/-- The turn finds the object, and the object tells its tenant. -/
def FindsTenant (t : Turn K) (ns name : String) (rest : Course) : Prop :=
  t.course = ⟨.load K ns name, .ok (some t.stored)⟩ :: rest ∧ t.tenant ≠ ""

/-- The authentication of the tenant. -/
def authenticating (t : Turn K) : Pass (Except AccessFailure String × TokenCache) :=
  t.memory.tokens.authenticate t.tenant t.settings.realm t.now

theorem FindsTenant.poses_iff (h : t.FindsTenant ns name rest) :
  t.Poses ns name operation ↔ operation = .load K ns name ∨
    (t.authenticating.bind (t.memory.serve t.settings t.now ns t.stored)).Poses rest operation
  := by
  obtain ⟨course, told⟩ := h
  rw [Poses, course, Memory.pass_eq]
  apply poses_ask.trans
  apply or_congr_right
  constructor
  · rintro ⟨answer, rest', ⟨⟩, poses⟩
    rw [Memory.receive, Memory.visit_of_told told] at poses
    exact poses
  · intro poses
    refine ⟨_, rest, rfl, ?_⟩
    rw [Memory.receive, Memory.visit_of_told told]
    exact poses

/-- A turn that finds the tenant of its object authenticates it and goes on with what comes of
that. -/
theorem FindsTenant.serves (h : t.FindsTenant ns name rest) (goes : t.Goes ns name) :
  (t.authenticating.bind (t.memory.serve t.settings t.now ns t.stored)).Takes rest t.result?
  := by
  obtain ⟨course, told⟩ := h
  have takes := goes.takes
  rw [course, Memory.pass_eq] at takes
  obtain ⟨⟨⟩, -⟩ | ⟨answer, rest', ⟨⟩, serves⟩ := takes_ask.mp takes
  rw [Memory.receive, Memory.visit_of_told told] at serves
  exact serves

/-- The turn asks for nothing but the object, and leaves the tokens. -/
structure Idles (t : Turn K) (ns name : String) : Prop where
  asks : ∀ operation, t.Poses ns name operation → operation = .load K ns name
  keeps : ∀ result memory, t.result? = some (result, memory) → memory.tokens = t.memory.tokens

theorem Goes.idles (h : t.Goes ns name) {answer : Except StoreFailure (Option (Object K))}
    {result : Except PassFailure Directive} {memory : Memory}
    (course : t.course = [⟨.load K ns name, answer⟩]) (ends : t.result? = some (result, memory))
    (same : memory.tokens = t.memory.tokens) :
  t.Idles ns name
  where
  asks operation poses := by
    have takes := h.takes
    rw [ends] at takes
    obtain ⟨exchange, found, rfl⟩ := poses.answered takes
    rw [course] at found
    rw [List.mem_singleton.mp found]
  keeps := by
    rw [ends]
    rintro _ _ ⟨⟩
    apply same

/-- A turn finds its object and the tenant of it, or it asks for nothing but the object. -/
theorem Goes.finds_or_idles (h : t.Goes ns name) :
  (∃ rest, t.FindsTenant ns name rest) ∨ t.Idles ns name
  := by
  have takes := h.takes
  rw [Memory.pass_eq] at takes
  obtain ⟨course, ends⟩ | ⟨answer, rest, course, goes⟩ := takes_ask.mp takes
  · right
    constructor
    · intro operation poses
      rw [Poses, course, Memory.pass_eq] at poses
      obtain same | ⟨_, _, ⟨⟩, _⟩ := poses_ask.mp poses
      apply same
    · rw [ends]
      exact nofun
  rcases answer with cause | _ | o
  · obtain ⟨rfl, ends⟩ := takes_done.mp goes
    exact .inr (h.idles course ends rfl)
  · obtain ⟨rfl, ends⟩ := takes_done.mp goes
    exact .inr (h.idles course ends rfl)
  obtain rfl : o = t.stored := h.loads o (course ▸ List.mem_cons_self)
  by_cases blank : t.tenant = ""
  · rw [tenant] at blank
    rw [Memory.receive, Memory.visit, if_pos blank] at goes
    obtain ⟨rfl, ends⟩ := takes_done.mp goes
    exact .inr (h.idles course ends rfl)
  · exact .inl ⟨rest, course, blank⟩

/-- A turn authenticates the tenant at most once, and reads no secrets and does not log in
afterwards. -/
theorem FindsTenant.authenticates (h : t.FindsTenant ns name rest) (goes : t.Goes ns name) :
  ∃ opening later result?, rest = opening ++ later ∧ t.authenticating.Takes opening result? ∧
    (∀ exchange ∈ later, exchange.question.isAccess = false) ∧
    ∀ result memory, t.result? = some (result, memory) →
      ∃ bearer?, result? = some (bearer?, memory.tokens)
  := by
  obtain ⟨stops, ends⟩ | ⟨⟨bearer?, tokens⟩, opening, later, rfl, authenticates, answers⟩ :=
    takes_bind.mp (h.serves goes)
  · refine ⟨rest, [], none, (List.append_nil rest).symm, stops, by simp, ?_⟩
    rw [ends]
    exact nofun
  refine ⟨opening, later, _, rfl, authenticates, answers.asked (Memory.isAccess_serve ..), ?_⟩
  cases bearer? with
  | error cause =>
    obtain ⟨rfl, ends⟩ := takes_done.mp answers
    rw [ends]
    rintro _ _ ⟨⟩
    exact ⟨_, rfl⟩
  | ok bearer =>
    obtain ⟨-, ends⟩ | ⟨outcome, first, second, -, -, returns⟩ := takes_bind.mp answers
    · rw [ends]
      exact nofun
    · obtain ⟨-, ends⟩ := takes_done.mp returns
      rw [ends]
      rintro _ _ ⟨⟩
      exact ⟨_, rfl⟩

/-- What a turn asks for the tenant of its object it asks for the authentication, or with a
token that this came to. -/
theorem FindsTenant.poses_cases (h : t.FindsTenant ns name rest)
    (poses : t.Poses ns name operation) :
  operation = .load K ns name ∨ t.authenticating.Poses rest operation ∨
    ∃ bearer tokens opening later, rest = opening ++ later ∧
      t.authenticating.Takes opening (some (.ok bearer, tokens)) ∧
        (t.memory.serve t.settings t.now ns t.stored (.ok bearer, tokens)).Poses later operation
  := by
  obtain loads | serves := h.poses_iff.mp poses
  · exact .inl loads
  obtain asks | ⟨⟨cause | bearer, tokens⟩, opening, later, same, takes, poses⟩ :=
    poses_bind.mp serves
  · exact .inr (.inl asks)
  · cases poses
  · exact .inr (.inr ⟨bearer, tokens, opening, later, same, takes, poses⟩)

/-- The tokens that are cached after a turn. -/
def tokensAfter (t : Turn K) : TokenCache :=
  t.memory.tokens.after t.tenant t.now t.course

theorem Idles.tokensAfter_eq (h : t.Idles ns name) (goes : t.Goes ns name) :
  t.tokensAfter = t.memory.tokens
  := by
  apply TokenCache.after_of_isAccess
  intro exchange found
  rw [h.asks _ (goes.takes.poses found)]
  rfl

/-- Only what is asked for the authentication changes the tokens. -/
theorem tokensAfter_eq {opening later : Course}
    (course : t.course = ⟨.load K ns name, .ok (some t.stored)⟩ :: (opening ++ later))
    (others : ∀ exchange ∈ later, exchange.question.isAccess = false) :
  t.tokensAfter = t.memory.tokens.after t.tenant t.now opening
  := by
  rw [tokensAfter, course, ← List.cons_append, TokenCache.after_append,
    TokenCache.after_of_isAccess others]
  rfl

/-- What a pass remembers of tokens is what is cached after it. -/
theorem Goes.tokens_eq (h : t.Goes ns name) {result : Except PassFailure Directive}
    {memory : Memory} (ends : t.result? = some (result, memory)) :
  memory.tokens = t.tokensAfter
  := by
  obtain ⟨rest, finds⟩ | idles := h.finds_or_idles
  · obtain ⟨opening, later, result?, rfl, authenticates, others, remembers⟩ :=
      finds.authenticates h
    obtain ⟨bearer?, rfl⟩ := remembers result memory ends
    rw [tokensAfter_eq finds.1 others]
    exact TokenCache.eq_after authenticates
  · rw [idles.tokensAfter_eq h]
    exact idles.keeps result memory ends

/-- A token that is cached after a turn was cached before, or it is received there. -/
theorem Goes.received (h : t.Goes ns name) {tenant : String} {cached : CachedToken}
    (found : Table.find? t.tokensAfter tenant = some cached) :
  Table.find? t.memory.tokens tenant = some cached ∨
    t.tenant = tenant ∧ cached.received = t.now ∧
      cached.ReceivedOn tenant t.settings.realm t.course
  := by
  obtain ⟨rest, finds⟩ | idles := h.finds_or_idles
  · obtain ⟨opening, later, result?, rfl, authenticates, others, -⟩ := finds.authenticates h
    rw [tokensAfter_eq finds.1 others] at found
    obtain cached | ⟨own, time, secret, credentials, holds, receives⟩ :=
      TokenCache.received_of_after authenticates found
    · exact .inl cached
    · refine .inr ⟨own, time, secret, credentials, holds, receives.trans ?_⟩
      rw [finds.1]
      exact List.infix_cons (List.prefix_append ..).isInfix
  · rw [idles.tokensAfter_eq h] at found
    exact .inl found

/-- Every request of a turn carries the token that is cached after it for its tenant. -/
theorem Goes.cached_of_send (h : t.Goes ns name) {request : Request}
    (sends : t.Poses ns name (.send request)) :
  ∃ cached, Table.find? t.tokensAfter t.tenant = some cached ∧
    cached.token.value = request.bearer
  := by
  obtain ⟨rest, finds⟩ | idles := h.finds_or_idles
  · obtain ⟨⟨⟩⟩ | asks | ⟨bearer, tokens, opening, later, rfl, authenticates, poses⟩ :=
      finds.poses_cases sends
    · cases (asks.asked (TokenCache.asks_authenticate ..)).1
    · obtain same | isLocal := poses.asked (Memory.asks_serve ..)
      · have others := ((finds.serves h).rest authenticates).asked (Memory.isAccess_serve ..)
        rw [tokensAfter_eq finds.1 others, same]
        exact TokenCache.cached_of_authenticate authenticates
      · cases isLocal
  · cases idles.asks _ sends

/-- A turn reads the secret of its tenant if it finds no token that can be used, and no other
secret. -/
theorem FindsTenant.poses_readSecret (h : t.FindsTenant ns name rest) {tenant : String} :
  t.Poses ns name (.readSecret tenant) ↔
    tenant = t.tenant ∧ t.memory.tokens.active? t.tenant t.now = some none
  := by
  rw [h.poses_iff, poses_bind, authenticating, TokenCache.poses_readSecret]
  constructor
  · rintro (⟨⟨⟩⟩ | reads | ⟨result, first, second, -, -, poses⟩)
    · exact reads
    · cases poses.asked (Memory.isAccess_serve ..)
  · exact fun reads => .inr (.inl reads)

/-- A turn on which a login fails sends nothing, writes nothing and leaves the tokens. -/
theorem Goes.harmless_of_fails (h : t.Goes ns name)
    (fails : ∃ exchange ∈ t.course, exchange.FailsAccess) :
  t.tokensAfter = t.memory.tokens ∧ ∀ operation, t.Poses ns name operation → operation.isQuiet
  := by
  obtain ⟨exchange, found, fails⟩ := fails
  have accesses := Exchange.isAccess_of_failsAccess fails
  obtain ⟨rest, finds⟩ | idles := h.finds_or_idles
  · have within {opening later : Course} (same : rest = opening ++ later)
        (others : ∀ exchange ∈ later, exchange.question.isAccess = false) :
        ∃ exchange ∈ opening, exchange.FailsAccess := by
      rw [finds.1, same] at found
      obtain _ | ⟨_, found⟩ := found
      · cases accesses
      · obtain found | found := List.mem_append.mp found
        · exact ⟨exchange, found, fails⟩
        · rw [others exchange found] at accesses
          cases accesses
    constructor
    · obtain ⟨opening, later, result?, rfl, authenticates, others, -⟩ := finds.authenticates h
      rw [tokensAfter_eq finds.1 others]
      exact (TokenCache.after_of_fails authenticates (within rfl others)).1
    · intro operation poses
      obtain rfl | asks | ⟨bearer, tokens, opening, later, rfl, authenticates, -⟩ :=
        finds.poses_cases poses
      · apply Operation.isQuiet_load
      · exact asks.asked (TokenCache.asks_authenticate ..)
      · have others := ((finds.serves h).rest authenticates).asked (Memory.isAccess_serve ..)
        cases (TokenCache.after_of_fails authenticates (within rfl others)).2 bearer tokens rfl
  · rw [idles.asks _ (h.takes.poses found)] at accesses
    cases accesses

end Turn

/-! ## Passes over objects of many tenants -/

/-- A pass over an object of any kind. -/
structure Visit where
  kind : Kind
  ns : String
  name : String
  turn : Turn kind

namespace Visit

variable {v : Visit}

/-- The visit asks something, whether it is answered or not. -/
def Poses (v : Visit) (operation : Operation) : Prop :=
  v.turn.Poses v.ns v.name operation

/-- The visit finds its object, and the object tells its tenant. -/
def FindsTenant (v : Visit) : Prop :=
  ∃ rest, v.turn.FindsTenant v.ns v.name rest

/-- On the course of the visit a token of its tenant is received, at the time of the visit. -/
def Receives (v : Visit) (tenant : String) (cached : CachedToken) : Prop :=
  v.turn.tenant = tenant ∧ cached.received = v.turn.now ∧
    cached.ReceivedOn tenant v.turn.settings.realm v.turn.course

end Visit

/-- Passes one after the other, the last one first, that share the tokens that are cached; the
tokens are lost where the operator is restarted. -/
inductive Passes : List Visit → TokenCache → Prop
  | started : Passes [] []
  | restarted {visits : List Visit} {tokens : TokenCache} (passes : Passes visits tokens) :
      Passes visits []
  | visited {visits : List Visit} {v : Visit} (passes : Passes visits v.turn.memory.tokens)
      (goes : v.turn.Goes v.ns v.name) : Passes (v :: visits) v.turn.tokensAfter

namespace Passes

variable {visits later earlier : List Visit} {v : Visit} {tokens : TokenCache}

/-- A pass begins with the tokens that the earlier ones leave. -/
theorem of_append (passes : Passes (later ++ v :: earlier) tokens) :
  v.turn.Goes v.ns v.name ∧ Passes earlier v.turn.memory.tokens
  := by
  generalize all : later ++ v :: earlier = visits at passes
  induction passes generalizing later with
  | started => cases List.append_ne_nil_of_right_ne_nil later (List.cons_ne_nil v earlier) all
  | restarted passes ih => exact ih all
  | visited passes goes ih =>
    cases later with
    | nil =>
      cases all
      exact ⟨goes, passes⟩
    | cons u later =>
      cases all
      apply ih rfl

/-- A token is cached only for the tenant for whom it was received. -/
theorem received (passes : Passes visits tokens) {tenant : String} {cached : CachedToken}
    (found : Table.find? tokens tenant = some cached) :
  ∃ u ∈ visits, u.Receives tenant cached
  := by
  induction passes with
  | started => cases found
  | restarted passes ih => cases found
  | @visited visits v passes goes ih =>
    obtain cached | receives := goes.received found
    · obtain ⟨u, among, receives⟩ := ih cached
      exact ⟨u, List.mem_cons_of_mem _ among, receives⟩
    · exact ⟨v, List.mem_cons_self, receives⟩

/-- In passes over objects of any tenants, one after the other:

* every request for an object carries a token that was received for the credentials that the
  secret of the tenant of the object held when it was read;
* a pass that finds its object and the tenant of it reads the secret of this tenant if no valid
  token is cached for it, and no other secret;
* a pass on which a secret cannot be read or does not hold credentials, or on which these are not
  exchanged for a token, sends nothing, writes nothing, and leaves the tokens that are cached.

The calendar holds the times when the tokens expire. -/
theorem keep_tenants_apart (passes : Passes (later ++ v :: earlier) tokens)
    (readable : ∀ u ∈ earlier, ∀ tenant cached, u.Receives tenant cached →
      cached.expiry?.isSome) :
  (∀ request, v.Poses (.send request) →
    ∃ u ∈ v :: earlier, ∃ cached, u.Receives v.turn.tenant cached ∧
      cached.token.value = request.bearer) ∧
  (v.FindsTenant → ∀ tenant, v.Poses (.readSecret tenant) ↔
    tenant = v.turn.tenant ∧ ¬ ∃ cached,
      Table.find? v.turn.memory.tokens tenant = some cached ∧ cached.IsValid v.turn.now) ∧
  ((∃ exchange ∈ v.turn.course, exchange.FailsAccess) →
    v.turn.tokensAfter = v.turn.memory.tokens ∧ ∀ operation, v.Poses operation →
      operation.isSend = false ∧ operation.isWrite = false)
  := by
  obtain ⟨goes, before⟩ := passes.of_append
  refine ⟨?_, ?_, goes.harmless_of_fails⟩
  · intro request sends
    obtain ⟨cached, found, same⟩ := goes.cached_of_send sends
    obtain ⟨u, among, receives⟩ := (before.visited goes).received found
    exact ⟨u, among, cached, receives, same⟩
  · rintro ⟨rest, finds⟩ tenant
    apply finds.poses_readSecret.trans
    apply and_congr_right
    rintro rfl
    apply TokenCache.active?_eq_none
    intro cached found
    obtain ⟨u, among, receives⟩ := before.received found
    exact readable u among _ cached receives

namespace Shop

/-- Surroundings in which two tenants have credentials of their own, and are given tokens that tell
whose they are.  No other tenant has a secret. -/
def surroundings (stored : Object .project) : (operation : Operation) → StateM Unit operation.Answer
  | .readSecret tenant => return (
      if tenant ∈ ["ARU-1", "ARU-2"] then
        .ok [(Credentials.idKey, tenant), (Credentials.secretKey, "secret")]
      else .error (.secretStore "no such secret"))
  | .logIn credentials _ => return .ok ⟨credentials.clientId, 300⟩
  | operation => Turn.projectSurroundings stored (Turn.reportOn "Active") none operation

/-- A pass over a project in the namespace `shop`, by the second of its time. -/
def turn (second : Int) (tokens : TokenCache) (name : String) (stored : Object .project) :
    Turn .project :=
  .taken ⟨tokens, []⟩ ⟨10_000_000_000, 3600_000_000_000, "cloud"⟩ ⟨second, 0⟩ stored "shop" name
    (surroundings stored) ()

/-- The project of a name that belongs to a tenant. -/
def project (name tenant : String) : Object .project where
  metadata := { Object.payments.metadata with name := some name }
  spec := { Object.payments.spec with tenant }
  status := none

/-- A project is enrolled. -/
def enrolls : Visit :=
  ⟨.project, "shop", "payments", turn 0 [] "payments" (project "payments" "ARU-1")⟩

/-- A project of another tenant is enrolled. -/
def enrollsOther : Visit :=
  ⟨.project, "shop", "billing",
    turn 1 enrolls.turn.tokensAfter "billing" (project "billing" "ARU-2")⟩

/-- The remote resource of the first project is created. -/
def creates : Visit :=
  ⟨.project, "shop", "payments", turn 2 enrollsOther.turn.tokensAfter "payments" enrolls.turn.after⟩

/-- The remote resource of the other project is created. -/
def createsOther : Visit :=
  ⟨.project, "shop", "billing", turn 3 creates.turn.tokensAfter "billing" enrollsOther.turn.after⟩

/-- A project is looked at whose tenant has no secret. -/
def refused : Visit :=
  ⟨.project, "shop", "archive",
    turn 4 createsOther.turn.tokensAfter "archive" (project "archive" "ARU-3")⟩

variable {second : Int} {tokens : TokenCache} {name : String} {stored : Object .project}

theorem goes_turn :
  (turn second tokens name stored).Goes "shop" name
  := Turn.goes_taken fun _ => rfl

theorem visited_turn {visits : List Visit} (passes : Passes visits tokens) :
  Passes (⟨.project, "shop", name, turn second tokens name stored⟩ :: visits)
    (turn second tokens name stored).tokensAfter
  := passes.visited (v := ⟨.project, "shop", name, turn second tokens name stored⟩) goes_turn

theorem passes :
  Passes [refused, createsOther, creates, enrollsOther, enrolls] refused.turn.tokensAfter
  := visited_turn (visited_turn (visited_turn (visited_turn (visited_turn started))))

/-- A token that is received in the first seconds expires in the calendar. -/
theorem readable_turn {tenant : String} {cached : CachedToken} (early : second ∈ [0, 1, 2, 3])
    (receives : Visit.Receives ⟨.project, "shop", name, turn second tokens name stored⟩ tenant
      cached) :
  cached.expiry?.isSome
  := by
  obtain ⟨-, time, secret, credentials, -, received⟩ := receives
  have found := received.subset (List.mem_cons_of_mem _ List.mem_cons_self)
  obtain ⟨s, given⟩ := exists_state_of_mem_courseIn _ found
  obtain ⟨token, _⟩ := cached
  cases time
  cases Except.ok.inj given
  -- when a token expires does not depend on its text
  have timely : ∀ second ∈ [0, 1, 2, 3], (CachedToken.expiry? ⟨⟨"", 300⟩, ⟨second, 0⟩⟩).isSome := by
    decide
  exact timely second early

theorem readable :
  ∀ u ∈ [createsOther, creates, enrollsOther, enrolls], ∀ tenant cached,
    u.Receives tenant cached → cached.expiry?.isSome
  := by
  refine List.forall_mem_cons.mpr ⟨?_, List.forall_mem_cons.mpr ⟨?_, List.forall_mem_cons.mpr
    ⟨?_, List.forall_mem_singleton.mpr ?_⟩⟩⟩
  · exact fun _ _ => readable_turn (by decide)
  · exact fun _ _ => readable_turn (by decide)
  · exact fun _ _ => readable_turn (by decide)
  · exact fun _ _ => readable_turn (by decide)

/-- The tokens that the requests of a visit carry. -/
def bearers (v : Visit) : List String :=
  v.turn.course.filterMap fun
    | ⟨.send request, _⟩ => some request.bearer
    | _ => none

theorem exists_of_bearers {v : Visit} (goes : v.turn.Goes v.ns v.name) {bearer : String}
    (carried : bearers v = [bearer]) :
  ∃ request, v.Poses (.send request) ∧ request.bearer = bearer
  := by
  have found : bearer ∈ bearers v := carried ▸ List.mem_singleton_self bearer
  obtain ⟨⟨question, answer⟩, found, carries⟩ := List.mem_filterMap.mp found
  cases question with
  | send request => exact ⟨request, goes.takes.poses found, Option.some.inj carries⟩
  | _ => cases carries

theorem bearers_eq :
  bearers creates = ["ARU-1"] ∧ bearers createsOther = ["ARU-2"]
  := by
  decide +kernel

theorem tenant_eq :
  creates.turn.tenant = "ARU-1" ∧ createsOther.turn.tenant = "ARU-2" ∧
    enrollsOther.turn.tenant = "ARU-2"
  := by
  decide +kernel

theorem findsTenant :
  createsOther.FindsTenant ∧ enrollsOther.FindsTenant
  := by
  refine ⟨⟨createsOther.turn.course.tail, rfl, ?_⟩, ⟨enrollsOther.turn.course.tail, rfl, ?_⟩⟩
  · rw [tenant_eq.2.1]
    decide
  · rw [tenant_eq.2.2]
    decide

theorem cached :
  ∃ cached, Table.find? createsOther.turn.memory.tokens "ARU-2" = some cached ∧
    cached.IsValid createsOther.turn.now
  := by
  refine ⟨⟨⟨"ARU-2", 300⟩, ⟨1, 0⟩⟩, ?_, ?_⟩
  · decide +kernel
  · rw [← CachedToken.isExpired?_eq_false]
    decide +kernel

theorem uncached :
  Table.find? enrollsOther.turn.memory.tokens "ARU-2" = none
  := by
  decide +kernel

theorem failsAccess :
  ∃ exchange ∈ refused.turn.course, exchange.FailsAccess
  := ⟨⟨.readSecret "ARU-3", .error (.secretStore "no such secret")⟩,
    List.mem_cons_of_mem _ List.mem_cons_self, trivial⟩

end Shop

open Shop in
/-- Projects of two tenants are enrolled and created in turns, and then one is looked at whose
tenant has no secret.  Each request carries the token that was received for the tenant of its
project.  The secret of the second tenant is read where its project is enrolled, though a token is
cached for the first, and no more where it is created.  Where there is no secret nothing is sent,
and the tokens of the others stay cached. -/
theorem keep_tenants_apart_payments :
  (∃ request, creates.Poses (.send request) ∧ request.bearer = "ARU-1" ∧
    ∃ u ∈ [creates, enrollsOther, enrolls], ∃ cached,
      u.Receives "ARU-1" cached ∧ cached.token.value = request.bearer) ∧
  (∃ request, createsOther.Poses (.send request) ∧ request.bearer = "ARU-2" ∧
    ∃ u ∈ [createsOther, creates, enrollsOther, enrolls], ∃ cached,
      u.Receives "ARU-2" cached ∧ cached.token.value = request.bearer) ∧
  (∀ tenant, enrollsOther.Poses (.readSecret tenant) ↔ tenant = "ARU-2") ∧
  (∀ tenant, ¬ createsOther.Poses (.readSecret tenant)) ∧
  refused.turn.tokensAfter = refused.turn.memory.tokens ∧
    ∀ operation, refused.Poses operation → operation.isSend = false ∧ operation.isWrite = false
  := by
  have least : Passes ([refused, createsOther, creates] ++ enrollsOther :: [enrolls]) _ := passes
  have middle : Passes ([refused, createsOther] ++ creates :: [enrollsOther, enrolls]) _ := passes
  have most : Passes ([refused] ++ createsOther :: [creates, enrollsOther, enrolls]) _ := passes
  have whole : Passes ([] ++ refused :: [createsOther, creates, enrollsOther, enrolls]) _ := passes
  obtain ⟨-, enrolled, -⟩ := keep_tenants_apart least fun u found =>
    readable u (List.mem_cons_of_mem _ (List.mem_cons_of_mem _ (List.mem_cons_of_mem _ found)))
  obtain ⟨sends, -, -⟩ := keep_tenants_apart middle fun u found =>
    readable u (List.mem_cons_of_mem _ (List.mem_cons_of_mem _ found))
  obtain ⟨sendsOther, created, -⟩ := keep_tenants_apart most fun u found =>
    readable u (List.mem_cons_of_mem _ found)
  obtain ⟨-, -, harmless⟩ := keep_tenants_apart whole readable
  obtain ⟨tenant, other, other'⟩ := tenant_eq
  refine ⟨?_, ?_, fun tenant => ?_, fun tenant => ?_, harmless failsAccess⟩
  · obtain ⟨request, posed, carried⟩ := exists_of_bearers (v := creates) goes_turn bearers_eq.1
    exact ⟨request, posed, carried, tenant ▸ sends request posed⟩
  · obtain ⟨request, posed, carried⟩ := exists_of_bearers (v := createsOther) goes_turn bearers_eq.2
    exact ⟨request, posed, carried, other ▸ sendsOther request posed⟩
  · rw [enrolled findsTenant.2, other', and_iff_left_iff_imp]
    rintro rfl ⟨cached, found, -⟩
    cases uncached.symm.trans found
  · rw [created findsTenant.1, other]
    rintro ⟨rfl, none⟩
    exact none Shop.cached

end Passes

end CloudOperator
