import CloudOperator.Proofs.Authentication
import CloudOperator.Proofs.Dependence

/-!
# Secrets are kept

What a pass stores, sends and reports does not depend on the secrets that it handles: the client
secrets that log a tenant in, and the tokens that are issued for them.

Two runs are compared whose surroundings differ in nothing but these values
(`Surroundings.Alike`).  Their passes go side by side: they ask the same, except for the secrets in
logins and for the tokens of requests (`secrecy`).  So an authentication that succeeds in one run
succeeds in the other (`TokenCache.coupled_authenticate`), and what follows it depends on the token
only in the requests that it sends (`Task.coupled_proceed`).

* `Memory.coupled_pass` says so of a pass.
* `Surroundings.Alike.keep_secrets` says so of runs of passes over any objects, with whatever
  happens to the stored objects in between.
-/

namespace CloudOperator

open Program

/-! ## Values that differ in secrets -/

/-- Two results are failures for the same cause, or values that are alike. -/
inductive ResultsAlike {ε α : Type} (alike : α → α → Prop) : Except ε α → Except ε α → Prop
  | error (cause : ε) : ResultsAlike alike (.error cause) (.error cause)
  | ok {a a' : α} (holds : alike a a') : ResultsAlike alike (.ok a) (.ok a')

/-- Two secrets differ at most in the client secret; where they do, neither has an empty one. -/
structure Secret.Alike (secret secret' : Secret) : Prop where
  others : ∀ key, key ≠ Credentials.secretKey → secret.lookup key = secret'.lookup key
  clientSecret : secret.lookup Credentials.secretKey = secret'.lookup Credentials.secretKey ∨
    ∃ value value', value ≠ "" ∧ value' ≠ "" ∧
      secret.lookup Credentials.secretKey = some value ∧
      secret'.lookup Credentials.secretKey = some value'

/-- Two tokens have the same lifetime. -/
def AccessToken.Alike (token token' : AccessToken) : Prop :=
  token.expiresIn = token'.expiresIn

/-- Two cached tokens have the same lifetime, and were received at the same time. -/
structure CachedToken.Alike (cached cached' : CachedToken) : Prop where
  token : cached.token.Alike cached'.token
  received : cached.received = cached'.received

/-- Two caches hold tokens for the same tenants, which differ at most in their values. -/
def TokenCache.Alike (cache cache' : TokenCache) : Prop :=
  ∀ tenant, Option.Rel CachedToken.Alike (Table.find? cache tenant) (Table.find? cache' tenant)

/-- What a request tells besides the token of the tenant. -/
def Request.disclosed (r : Request) : Method × String × Option Json :=
  (r.method, r.path, r.body)

/-- Passes that handle different secrets ask the same, except for the client secret of a login and
the token of a request, and the answers differ at most in secrets. -/
def secrecy : Coupling Operation.Answer where
  asks
    | .logIn credentials realm, .logIn credentials' realm' =>
      credentials.clientId = credentials'.clientId ∧ realm = realm'
    | .send request, .send request' => request.disclosed = request'.disclosed
    | operation, operation' => operation = operation'
  answers
    | .readSecret _, .readSecret _, answer, answer' => ResultsAlike Secret.Alike answer answer'
    | .logIn _ _, .logIn _ _, answer, answer' => ResultsAlike AccessToken.Alike answer answer'
    | .send _, .send _, answer, answer' => answer = answer'
    | _, _, answer, answer' => HEq answer answer'

theorem secrecy_shares_load (K : Kind) (ns name : String) :
  secrecy.Shares (.load K ns name)
  where
  asks := rfl
  answers _ _ := eq_of_heq

theorem secrecy_shares_count (counter : Counter) :
  secrecy.Shares (.count counter)
  where
  asks := rfl
  answers _ _ := eq_of_heq

theorem secrecy_serves (ns bearer bearer' : String) (references : List (Kind × Reference)) :
  secrecy.Serves ns bearer bearer' references
  where
  counts := secrecy_shares_count
  loads := by
    rintro _ ⟨r, -, rfl⟩
    apply secrecy_shares_load
  sends _ _ _ := rfl
  sent _ _ _ _ := id

theorem secrecy_stores {K : Kind} (o : Object K) :
  secrecy.Stores o
  where
  counts := secrecy_shares_count
  statuses _ _ := ⟨rfl, fun _ _ => eq_of_heq⟩
  finalizers _ _ := ⟨rfl, fun _ _ => eq_of_heq⟩

/-! ## Authentications -/

/-- Whether a secret holds a value does not depend on the client secret. -/
theorem Secret.Alike.required {secret secret' : Secret} (alike : secret.Alike secret')
    (tenant key : String) :
  ResultsAlike (fun value value' => key ≠ Credentials.secretKey → value = value')
    (Credentials.required tenant secret key) (Credentials.required tenant secret' key)
  := by
  by_cases hidden : key = Credentials.secretKey
  · subst hidden
    obtain same | ⟨value, value', present, present', found, found'⟩ := alike.clientSecret
    · rw [Credentials.required, Credentials.required, same]
      split
      · split
        · exact .error _
        · exact .ok fun _ => rfl
      · exact .error _
    · rw [Credentials.required, Credentials.required, found, found']
      dsimp only
      rw [if_neg present, if_neg present']
      exact .ok fun shown => absurd rfl shown
  · rw [Credentials.required, Credentials.required, alike.others key hidden]
    split
    · split
      · exact .error _
      · exact .ok fun _ => rfl
    · exact .error _

theorem Secret.Alike.ofSecret {secret secret' : Secret} (alike : secret.Alike secret')
    (tenant : String) :
  ResultsAlike (fun c c' => c.clientId = c'.clientId) (Credentials.ofSecret tenant secret)
    (Credentials.ofSecret tenant secret')
  := by
  have ids := alike.required tenant Credentials.idKey
  have values := alike.required tenant Credentials.secretKey
  rw [Credentials.ofSecret, Credentials.ofSecret]
  generalize Credentials.required tenant secret Credentials.idKey = id?,
    Credentials.required tenant secret' Credentials.idKey = id?' at ids
  generalize Credentials.required tenant secret Credentials.secretKey = value?,
    Credentials.required tenant secret' Credentials.secretKey = value?' at values
  cases ids with
  | error cause => exact .error cause
  | ok same =>
    cases values with
    | error cause => exact .error cause
    | ok _ => exact .ok (same (by decide))

namespace TokenCache

variable {cache cache' : TokenCache}

/-- A token can be used in one run if one can be used in the other. -/
theorem Alike.active? (alike : cache.Alike cache') (tenant : String) (now : Instant) :
  Option.Rel (Option.Rel fun _ _ => True) (cache.active? tenant now) (cache'.active? tenant now)
  := by
  have held := alike tenant
  rw [TokenCache.active?, TokenCache.active?]
  generalize Table.find? cache tenant = cached?, Table.find? cache' tenant = cached?' at held
  cases held with
  | none => exact .some .none
  | @some cached cached' alike =>
    obtain ⟨⟨value, lifetime⟩, received⟩ := cached
    obtain ⟨⟨value', lifetime'⟩, received'⟩ := cached'
    obtain ⟨⟨⟩, ⟨⟩⟩ := alike
    -- the expiry of a token is told by its lifetime and the time at which it was received
    have expired : CachedToken.isExpired? ⟨⟨value', lifetime⟩, received⟩ now
      = CachedToken.isExpired? ⟨⟨value, lifetime⟩, received⟩ now := rfl
    dsimp only
    rw [expired]
    rcases CachedToken.isExpired? ⟨⟨value, lifetime⟩, received⟩ now with _ | _ | _
    · exact .none
    · exact .some (.some trivial)
    · exact .some .none

theorem Alike.store (alike : cache.Alike cache') {token token' : AccessToken}
    (lifetimes : token.Alike token') (tenant : String) (now : Instant) :
  (cache.store tenant token now).Alike (cache'.store tenant token' now)
  := by
  intro tenant'
  rw [find?_store, find?_store]
  split
  · exact .some ⟨lifetimes, rfl⟩
  · apply alike

theorem coupled_credentials (tenant : String) :
  (credentials tenant).Coupled secrecy (ResultsAlike fun c c' => c.clientId = c'.clientId)
    (credentials tenant)
  := by
  apply coupled_question_bind
  · exact rfl
  rintro _ _ (cause | secrets)
  · exact .done (.error cause)
  · exact .done (secrets.ofSecret tenant)

/-- Two authentications both fail for the same cause, or both come to a token; the caches that they
leave differ at most in the values of tokens. -/
structure EndAlike (ends ends' : Except AccessFailure String × TokenCache) : Prop where
  bearers : ResultsAlike (fun _ _ => True) ends.1 ends'.1
  caches : ends.2.Alike ends'.2

theorem coupled_exchange (alike : cache.Alike cache') {credentials credentials' : Credentials}
    (same : credentials.clientId = credentials'.clientId) (tenant realm : String) (now : Instant) :
  (cache.exchange tenant credentials realm now).Coupled secrecy EndAlike
    (cache'.exchange tenant credentials' realm now)
  := by
  apply coupled_question_bind
  · exact ⟨same, rfl⟩
  rintro _ _ (cause | lifetimes)
  · apply coupled_question_bind_of_shares (secrecy_shares_count _)
    intro _
    exact .done ⟨.error cause, alike⟩
  · apply coupled_question_bind_of_shares (secrecy_shares_count _)
    intro _
    exact .done ⟨.ok trivial, alike.store lifetimes tenant now⟩

/-- An authentication goes the same way whatever the secrets are. -/
theorem coupled_authenticate (alike : cache.Alike cache') (tenant realm : String) (now : Instant) :
  (cache.authenticate tenant realm now).Coupled secrecy EndAlike
    (cache'.authenticate tenant realm now)
  := by
  have active := alike.active? tenant now
  generalize found : cache.active? tenant now = token?, found' : cache'.active? tenant now = token?'
    at active
  cases active with
  | none =>
    rw [authenticate, hit?, found, authenticate, hit?, found']
    exact .overflow
  | some usable =>
    cases usable with
    | some _ =>
      rw [authenticate_of_hit found, authenticate_of_hit found']
      apply coupled_question_bind_of_shares (secrecy_shares_count _)
      intro _
      exact .done ⟨.ok trivial, alike⟩
    | none =>
      rw [authenticate_of_miss found, authenticate_of_miss found']
      apply (coupled_credentials tenant).bind
      rintro _ _ (cause | same)
      · exact .done ⟨.error cause, alike⟩
      · exact coupled_exchange alike same tenant realm now

end TokenCache

/-! ## Passes -/

/-- What is remembered in two runs differs at most in the values of tokens. -/
structure Memory.Alike (memory memory' : Memory) : Prop where
  tokens : memory.tokens.Alike memory'.tokens
  writes : memory.writes = memory'.writes

theorem Memory.Alike.empty :
  Memory.empty.Alike .empty
  := ⟨fun _ => .none, rfl⟩

/-- A pass goes the same way whatever the secrets are, and ends in the same way. -/
theorem Memory.coupled_pass {memory memory' : Memory} (alike : memory.Alike memory')
    (settings : PassSettings) (now : Instant) (K : Kind) (ns name : String) :
  (memory.pass settings now K ns name).Coupled secrecy
    (fun ends ends' => ends.1 = ends'.1 ∧ ends.2.Alike ends'.2)
    (memory'.pass settings now K ns name)
  := by
  obtain ⟨tokens, writes⟩ := memory
  obtain ⟨tokens', _⟩ := memory'
  obtain ⟨alike, ⟨⟩⟩ := alike
  apply coupled_question_bind_of_shares (secrecy_shares_load ..)
  rintro (cause | _ | o)
  · exact .done ⟨rfl, alike, rfl⟩
  · exact .done ⟨rfl, alike, rfl⟩
  dsimp only
  split
  · exact .done ⟨rfl, alike, rfl⟩
  apply (TokenCache.coupled_authenticate alike _ settings.realm now).bind
  rintro ⟨_, tokens⟩ ⟨_, tokens'⟩ ⟨cause | _, alike⟩
  · exact .done ⟨rfl, alike, rfl⟩
  · apply (Task.coupled_proceed (secrecy_serves ..) (secrecy_stores o) rfl).bind
    rintro _ _ ⟨result, o', edit⟩
    exact .done ⟨rfl, alike, rfl⟩

/-! ## Runs of passes -/

/-- What surrounds the passes of a run: a store of objects with a state of its own, and what the
remote API, the store of secrets and the identity provider answer, each in the order in which it is
asked. -/
structure Surroundings (σ : Type) where
  load : (K : Kind) → (ns name : String) → StateM σ (Except StoreFailure (Option (Object K)))
  writeStatus : (K : Kind) → Object K → StateM σ (Except StoreFailure (Object K))
  writeFinalizers : (K : Kind) → Object K → StateM σ (Except StoreFailure (Object K))
  responses : Nat → Except String Response
  secrets : Nat → Except AccessFailure Secret
  tokens : Nat → Except AccessFailure AccessToken

/-- What a run left in its surroundings: the state of the store, the requests that were sent to the
remote API, the numbers of secrets read and of logins, and the metrics. -/
structure Traces (σ : Type) where
  stored : σ
  requests : List Request
  reads : Nat
  logins : Nat
  metrics : Metrics

/-- Nothing but the store is there before a run. -/
def Traces.start {σ : Type} (stored : σ) : Traces σ :=
  ⟨stored, [], 0, 0, []⟩

/-- Something that happens in a run. -/
inductive Event (σ : Type) where
  /-- A pass over the object of a name. -/
  | pass (settings : PassSettings) (now : Instant) (K : Kind) (ns name : String)
  /-- Others change what is stored. -/
  | change (f : σ → σ)
  /-- The operator is restarted, and remembers nothing. -/
  | restart

namespace Surroundings

variable {σ : Type}

/-- An operation in the surroundings. -/
def answer (s : Surroundings σ) : (operation : Operation) → StateM (Traces σ) operation.Answer
  | .load K ns name => modifyGet fun t =>
    let (answer, stored) := s.load K ns name t.stored
    (answer, { t with stored })
  | .writeStatus K o => modifyGet fun t =>
    let (answer, stored) := s.writeStatus K o t.stored
    (answer, { t with stored })
  | .writeFinalizers K o => modifyGet fun t =>
    let (answer, stored) := s.writeFinalizers K o t.stored
    (answer, { t with stored })
  | .readSecret _ => modifyGet fun t => (s.secrets t.reads, { t with reads := t.reads + 1 })
  | .logIn _ _ => modifyGet fun t => (s.tokens t.logins, { t with logins := t.logins + 1 })
  | .send request => modifyGet fun t =>
    (s.responses t.requests.length, { t with requests := t.requests ++ [request] })
  | .count counter => modify fun t => { t with metrics := t.metrics.count counter }

/-- A run: the results of its passes in order, and what it left.  It ends where a date leaves the
calendar. -/
def run (s : Surroundings σ) : List (Event σ) → Memory → Traces σ →
    List (Option (Except PassFailure Directive)) × Traces σ
  | [], _, t => ([], t)
  | .change f :: events, memory, t => s.run events memory { t with stored := f t.stored }
  | .restart :: events, _, t => s.run events .empty t
  | .pass settings now K ns name :: events, memory, t =>
    match (memory.pass settings now K ns name).run s.answer t with
    | (none, t) => ([none], t)
    | (some (result, memory), t) =>
      let (results, t) := s.run events memory t
      (some result :: results, t)

/-- Surroundings differ at most in secrets: they have the same store and the same remote API, and
in the same order secrets and tokens that are alike. -/
structure Alike (s s' : Surroundings σ) : Prop where
  load : s.load = s'.load
  writeStatus : s.writeStatus = s'.writeStatus
  writeFinalizers : s.writeFinalizers = s'.writeFinalizers
  responses : s.responses = s'.responses
  secrets : ∀ n, ResultsAlike Secret.Alike (s.secrets n) (s'.secrets n)
  tokens : ∀ n, ResultsAlike AccessToken.Alike (s.tokens n) (s'.tokens n)

end Surroundings

/-- Runs left the same, except for the tokens in requests. -/
structure Traces.Alike {σ : Type} (t t' : Traces σ) : Prop where
  stored : t.stored = t'.stored
  requests : t.requests.map Request.disclosed = t'.requests.map Request.disclosed
  reads : t.reads = t'.reads
  logins : t.logins = t'.logins
  metrics : t.metrics = t'.metrics

namespace Surroundings.Alike

variable {σ : Type} {s s' : Surroundings σ}

/-- Operations that correspond get answers that correspond, and leave the same. -/
theorem serves (alike : s.Alike s') (operation operation' : Operation) (t t' : Traces σ)
    (asks : secrecy.asks operation operation') (traces : t.Alike t') :
  secrecy.answers operation operation' (s.answer operation t).1 (s'.answer operation' t').1 ∧
    (s.answer operation t).2.Alike (s'.answer operation' t').2
  := by
  obtain ⟨load, writeStatus, writeFinalizers, responses, secrets, tokens⟩ := s
  obtain ⟨_, _, _, _, secrets', tokens'⟩ := s'
  obtain ⟨⟨⟩, ⟨⟩, ⟨⟩, ⟨⟩, secrets, tokens⟩ := alike
  obtain ⟨stored, requests, reads, logins, metrics⟩ := t
  obtain ⟨_, requests', _, _, _⟩ := t'
  obtain ⟨⟨⟩, sent, ⟨⟩, ⟨⟩, ⟨⟩⟩ := traces
  cases operation with
  | load | writeStatus | writeFinalizers | count =>
    obtain ⟨⟩ := asks
    exact ⟨HEq.rfl, rfl, sent, rfl, rfl, rfl⟩
  | readSecret tenant =>
    obtain ⟨⟩ := asks
    exact ⟨secrets reads, rfl, sent, rfl, rfl, rfl⟩
  | logIn credentials realm =>
    cases operation' with
    | logIn credentials' realm' => exact ⟨tokens logins, rfl, sent, rfl, rfl, rfl⟩
    | load | writeStatus | writeFinalizers | readSecret | send | count => cases asks
  | send request =>
    cases operation' with
    | send request' =>
      -- as many requests were sent in one run as in the other
      have sent : requests.map Request.disclosed = requests'.map Request.disclosed := sent
      have counted : requests.length = requests'.length := by
        simpa using congrArg List.length sent
      refine ⟨congrArg responses counted, rfl, ?_, rfl, rfl, rfl⟩
      change (requests ++ [request]).map _ = (requests' ++ [request']).map _
      rw [List.map_append, List.map_append, sent]
      exact congrArg (_ ++ [·]) asks
    | load | writeStatus | writeFinalizers | readSecret | logIn | count => cases asks

theorem run_alike (alike : s.Alike s') (events : List (Event σ)) {memory memory' : Memory}
    (remembered : memory.Alike memory') {t t' : Traces σ} (traces : t.Alike t') :
  (s.run events memory t).1 = (s'.run events memory' t').1 ∧
    (s.run events memory t).2.Alike (s'.run events memory' t').2
  := by
  induction events generalizing memory memory' t t' with
  | nil => exact ⟨rfl, traces⟩
  | cons event events ih =>
    cases event with
    | change f => exact ih remembered { traces with stored := congrArg f traces.stored }
    | restart => exact ih .empty traces
    | pass settings now K ns name =>
      obtain ⟨ends, left⟩ :=
        (Memory.coupled_pass remembered settings now K ns name).run alike.serves traces
      rw [Surroundings.run, Surroundings.run]
      generalize (memory.pass settings now K ns name).run s.answer t = ran,
        (memory'.pass settings now K ns name).run s'.answer t' = ran' at ends left
      obtain ⟨_, t⟩ := ran
      obtain ⟨_, t'⟩ := ran'
      cases ends with
      | none => exact ⟨rfl, left⟩
      | @some ends ends' corresponds =>
        obtain ⟨result, memory⟩ := ends
        obtain ⟨_, memory'⟩ := ends'
        obtain ⟨⟨⟩, remembered⟩ := corresponds
        obtain ⟨results, left⟩ := ih remembered left
        exact ⟨congrArg (some result :: ·) results, left⟩

/-- **Secrets are kept**: two runs over the same stored objects, in surroundings that differ at most
in client secrets and in the values of tokens, come to the same results, store the same, send the
same requests except for their tokens, and count the same. -/
theorem keep_secrets (alike : s.Alike s') {memory memory' : Memory}
    (remembered : memory.Alike memory') (events : List (Event σ)) (stored : σ) :
  let ran := s.run events memory (.start stored)
  let ran' := s'.run events memory' (.start stored)
  ran.1 = ran'.1 ∧ ran.2.stored = ran'.2.stored ∧
    ran.2.requests.map Request.disclosed = ran'.2.requests.map Request.disclosed ∧
    ran.2.metrics = ran'.2.metrics
  := by
  have traces : (Traces.start stored).Alike (.start stored) := ⟨rfl, rfl, rfl, rfl, rfl⟩
  obtain ⟨results, left⟩ := alike.run_alike events remembered traces
  exact ⟨results, left.stored, left.requests, left.metrics⟩

end Surroundings.Alike

/-! ## A run with two client secrets -/

namespace Surroundings

/-- A store with one project, whose tenant logs in with a client secret and gets a token for it.
The remote API answers every request alike. -/
def ofProject (secret token : String) : Surroundings (Object .project) where
  load
    | .project, _, _ => fun stored => (.ok (some stored), stored)
    | _, _, _ => fun stored => (.ok none, stored)
  writeStatus
    | .project, o => fun _ => (.ok o, o)
    | _, o => fun stored => (.ok o, stored)
  writeFinalizers
    | .project, o => fun _ => (.ok o, o)
    | _, o => fun stored => (.ok o, stored)
  responses _ := .ok (Turn.reportOn "Active")
  secrets _ := .ok [(Credentials.idKey, "client"), (Credentials.secretKey, secret)]
  tokens _ := .ok ⟨token, 300⟩

/-- Two passes over the project `payments`: it is kept, and its remote resource is created. -/
def payments : List (Event (Object .project)) :=
  let settings := ⟨10_000_000_000, 3600_000_000_000, "cloud"⟩
  [.pass settings ⟨0, 0⟩ .project "shop" "payments",
    .pass settings ⟨20, 0⟩ .project "shop" "payments"]

theorem alike_ofProject {secret secret' : String} (present : secret ≠ "") (present' : secret' ≠ "")
    (token token' : String) :
  (ofProject secret token).Alike (ofProject secret' token')
  where
  load := rfl
  writeStatus := rfl
  writeFinalizers := rfl
  responses := rfl
  secrets _ := by
    refine .ok ⟨?_, .inr ⟨secret, secret', present, present', rfl, rfl⟩⟩
    intro key shown
    simp only [List.lookup_cons, beq_false_of_ne shown]
  tokens _ := .ok rfl

/-- The tokens that are sent by the two passes over `payments`. -/
theorem bearers_payments :
  ((ofProject "secret" "token").run payments .empty (.start .payments)).2.requests.map (·.bearer)
      = ["token"] ∧
    ((ofProject "other secret" "other token").run payments .empty
      (.start .payments)).2.requests.map (·.bearer) = ["other token"]
  := by
  decide +kernel

/-- The runs with two client secrets differ in the tokens that they send, and in nothing else that
is stored, sent or reported. -/
theorem Alike.keep_secrets_payments :
  let s := ofProject "secret" "token"
  let s' := ofProject "other secret" "other token"
  let ran := s.run payments .empty (.start .payments)
  let ran' := s'.run payments .empty (.start .payments)
  (s.Alike s' ∧ Memory.empty.Alike .empty) ∧
    (ran.2.requests.map (·.bearer) = ["token"] ∧
      ran'.2.requests.map (·.bearer) = ["other token"]) ∧
    ran.1 = ran'.1 ∧ ran.2.stored = ran'.2.stored ∧
    ran.2.requests.map Request.disclosed = ran'.2.requests.map Request.disclosed ∧
    ran.2.metrics = ran'.2.metrics
  := by
  have alike : (ofProject "secret" "token").Alike (ofProject "other secret" "other token") :=
    alike_ofProject (by decide) (by decide) "token" "other token"
  exact ⟨⟨alike, .empty⟩, bearers_payments, keep_secrets alike .empty payments .payments⟩

end Surroundings

end CloudOperator
