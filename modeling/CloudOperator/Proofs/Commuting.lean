import CloudOperator.Proofs.Dependence
import CloudOperator.Proofs.Tenancy

/-!
# Passes that commute

Passes share what the operator remembers: the tokens that are cached, and the writes that were made.
Still, of two passes over unrelated objects either may be the first: they come to the same, and
they leave the same (`Services.passes_commute`).

This is so where every object is stored by itself, and where the answers of the store of secrets, of
the identity provider and of the remote API are functions of what they are asked (`Services`).

* A pass leaves a tenant the token that it would get without the pass, cached or not
  (`Services.authenticated_after`), and it does not matter in which order tenants are authenticated
  (`Services.authenticated_comm`).
* A pass comes to the same wherever its object and those that it refers to are stored alike, and it
  leaves other objects and what is remembered of them (`Services.pass_beside`).
* So a pass comes to the same before another one and after it (`Services.pass_after`).
-/

namespace CloudOperator

open Program

/-! ## Sites -/

/-- Where an object is stored. -/
structure Site where
  kind : Kind
  ns : String
  name : String
deriving DecidableEq

namespace Site

/-- The key of the object at a site. -/
def key (site : Site) : String :=
  site.kind.key site.ns site.name

/-- The names of a site hold no slash. -/
structure IsPlain (site : Site) : Prop where
  ns : '/' ∉ site.ns.toList
  name : '/' ∉ site.name.toList

theorem pieces_key {site : Site} (plain : site.IsPlain) :
  pieces (· == '/') site.key.toList = [site.kind.name.toList, site.ns.toList, site.name.toList]
  := by
  have kind : '/' ∉ site.kind.name.toList := by cases site.kind <;> decide
  have cut : pieces (· == '/') (site.kind.name.toList ++
      [site.ns.toList, site.name.toList].flatMap ('/' :: ·))
      = [site.kind.name.toList, site.ns.toList, site.name.toList] := by
    apply pieces_append_flatMap rfl
    have ns := plain.ns
    have name := plain.name
    grind
  rw [← cut]
  simp [key, Kind.key]

theorem key_injective {site site' : Site} (plain : site.IsPlain) (plain' : site'.IsPlain)
    (same : site.key = site'.key) :
  site = site'
  := by
  have pieces := pieces_key plain
  rw [same, pieces_key plain'] at pieces
  obtain ⟨K, ns, name⟩ := site
  obtain ⟨K', ns', name'⟩ := site'
  simp only [List.cons.injEq, and_true, String.toList_inj] at pieces
  obtain ⟨kinds, rfl, rfl⟩ := pieces
  have known := congrArg Kind.ofName? kinds
  rw [Kind.ofName?_name, Kind.ofName?_name] at known
  cases known
  rfl

end Site

/-- The site that an object names. -/
def Object.site {K : Kind} (o : Object K) : Site :=
  ⟨K, o.ns, o.metadata.displayName⟩

theorem Object.Namesake.site {K : Kind} {o o' : Object K} (h : o.Namesake o') :
  o'.site = o.site
  := by
  rw [Object.site, h.ns, h.name, Object.site]

/-- The site that a reference in a namespace leads to. -/
def Reference.site (ns : String) (K : Kind) (r : Reference) : Site :=
  ⟨K, r.namespaceOr ns, r.name⟩

/-! ## Services -/

/-- What the operator works with: a store that keeps each object by itself, and a store of secrets,
an identity provider and a remote API whose answers are functions of what they are asked. -/
structure Services (τ : Type) where
  read : (K : Kind) → τ → Except StoreFailure (Option (Object K))
  writeStatus : (K : Kind) → Object K → τ → Except StoreFailure (Object K) × τ
  writeFinalizers : (K : Kind) → Object K → τ → Except StoreFailure (Object K) × τ
  secret : (tenant : String) → Except AccessFailure Secret
  token : Credentials → (realm : String) → Except AccessFailure AccessToken
  response : Request → Except String Response

/-- What is stored at every site, and the requests that were sent to the remote API. -/
structure Scene (τ : Type) where
  objects : Site → τ
  requests : List Request

/-- The scene with something else stored at a site. -/
def Scene.put {τ : Type} (s : Scene τ) (site : Site) (stored : τ) : Scene τ :=
  { s with objects := fun other => if other = site then stored else s.objects other }

namespace Services

variable {τ : Type} (e : Services τ)

/-- The services carry out an operation. -/
def answer : (operation : Operation) → StateM (Scene τ) operation.Answer
  | .load K ns name => fun s => (e.read K (s.objects ⟨K, ns, name⟩), s)
  | .writeStatus K o => fun s =>
    let (answer, stored) := e.writeStatus K o (s.objects o.site)
    (answer, s.put o.site stored)
  | .writeFinalizers K o => fun s =>
    let (answer, stored) := e.writeFinalizers K o (s.objects o.site)
    (answer, s.put o.site stored)
  | .readSecret tenant => return e.secret tenant
  | .logIn credentials realm => return e.token credentials realm
  | .send request => fun s => (e.response request, { s with requests := s.requests ++ [request] })
  | .count _ => return ()

/-- The object that is found at a site. -/
def Finds (site : Site) (objects : Site → τ) (o : Object site.kind) : Prop :=
  e.read site.kind (objects site) = .ok (some o)

/-- The tenant of the object at a site, blank if none is found there. -/
def tenantAt (site : Site) (objects : Site → τ) : String :=
  match e.read site.kind (objects site) with
  | .ok (some o) => trimBlanks o.tenant
  | _ => ""

/-- What comes of a pass: its result, unless it leaves the calendar, the requests that it sends, and
what is remembered and stored after it. -/
structure Outcome (τ : Type) where
  result? : Option (Except PassFailure Directive)
  requests : List Request
  memory : Memory
  objects : Site → τ

/-- A pass over the object at a site.  One that leaves the calendar leaves the tokens that were
received on its course. -/
def pass (settings : PassSettings) (now : Instant) (site : Site) (memory : Memory)
    (objects : Site → τ) : Outcome τ :=
  let program := memory.pass settings now site.kind site.ns site.name
  let (ends?, s) := program.run e.answer ⟨objects, []⟩
  { result? := ends?.map (·.1)
    requests := s.requests
    memory := match ends? with
      | some (_, memory) => memory
      | none =>
        let course := program.courseIn e.answer ⟨objects, []⟩
        { memory with tokens := memory.tokens.after (e.tenantAt site objects) now course }
    objects := s.objects }

/-! ## Authentications -/

/-- The token that the credentials in the secret of a tenant are exchanged for. -/
def granted (realm tenant : String) : Except AccessFailure AccessToken :=
  ((e.secret tenant).bind (Credentials.ofSecret tenant)).bind fun credentials =>
    e.token credentials realm

/-- What an authentication comes to. -/
def authenticated (realm : String) (now : Instant) (tenant : String) (cache : TokenCache) :
    Except AccessFailure String × TokenCache :=
  match cache.active? tenant now with
  | some (some token) => (.ok token, cache)
  | _ => cache.exchanged tenant now (e.granted realm tenant)

variable {e} {realm tenant : String} {now : Instant} {cache cache' : TokenCache}

theorem run_credentials (tenant : String) (s : Scene τ) :
  (TokenCache.credentials tenant).run e.answer s
    = (some ((e.secret tenant).bind (Credentials.ofSecret tenant)), s)
  := by
  obtain ⟨next, asks, ends⟩ : ∃ next,
      TokenCache.credentials tenant = .ask (.readSecret tenant) next ∧
      ∀ secret?, (next secret?).run e.answer s
        = (some (secret?.bind (Credentials.ofSecret tenant)), s) :=
    ⟨_, rfl, by rintro (cause | secret) <;> rfl⟩
  rw [asks]
  apply ends

theorem run_exchange (credentials : Credentials) (s : Scene τ) :
  (cache.exchange tenant credentials realm now).run e.answer s
    = (some (cache.exchanged tenant now (e.token credentials realm)), s)
  := by
  obtain ⟨next, asks, ends⟩ : ∃ next,
      cache.exchange tenant credentials realm now = .ask (.logIn credentials realm) next ∧
      ∀ token?, (next token?).run e.answer s = (some (cache.exchanged tenant now token?), s) :=
    ⟨_, rfl, by rintro (cause | token) <;> rfl⟩
  rw [asks]
  apply ends

/-- An authentication asks the store of secrets and the identity provider, and leaves the scene as
it is. -/
theorem run_authenticate (known : cache.active? tenant now ≠ none) (s : Scene τ) :
  (cache.authenticate tenant realm now).run e.answer s
    = (some (e.authenticated realm now tenant cache), s)
  := by
  obtain ⟨token?, active⟩ := Option.ne_none_iff_exists'.mp known
  rw [authenticated, active]
  cases token? with
  | some token =>
    rw [TokenCache.authenticate_of_hit active]
    rfl
  | none =>
    rw [TokenCache.authenticate_of_miss active, runIn_bind, run_credentials, granted]
    rcases (e.secret tenant).bind (Credentials.ofSecret tenant) with cause | credentials
    · rfl
    · apply run_exchange

theorem authenticated_of_hit {token : String}
    (hits : cache.active? tenant now = some (some token)) :
  e.authenticated realm now tenant cache = (.ok token, cache)
  := by
  rw [authenticated, hits]

theorem authenticated_of_miss (misses : ∀ token, cache.active? tenant now ≠ some (some token)) :
  e.authenticated realm now tenant cache = cache.exchanged tenant now (e.granted realm tenant)
  := by
  rw [authenticated]
  split
  · cases misses _ ‹_›
  · rfl

/-- An authentication is decided by the token that is cached for its tenant. -/
theorem authenticated_congr (agree : Table.find? cache tenant = Table.find? cache' tenant) :
  (e.authenticated realm now tenant cache).1 = (e.authenticated realm now tenant cache').1 ∧
    Table.find? (e.authenticated realm now tenant cache).2 tenant
      = Table.find? (e.authenticated realm now tenant cache').2 tenant
  := by
  have active : cache.active? tenant now = cache'.active? tenant now := by
    rw [TokenCache.active?, agree, TokenCache.active?]
  rw [authenticated, authenticated, active]
  split
  · exact ⟨rfl, agree⟩
  · cases e.granted realm tenant with
    | error cause => exact ⟨rfl, agree⟩
    | ok token => simp [TokenCache.exchanged, TokenCache.find?_store]

/-- The tokens of other tenants stay cached. -/
theorem find?_authenticated_of_ne (other : tenant ≠ tenant') :
  Table.find? (e.authenticated realm now tenant cache).2 tenant' = Table.find? cache tenant'
  := by
  rw [authenticated]
  split
  · rfl
  · cases e.granted realm tenant with
    | error cause => rfl
    | ok token => simp [TokenCache.exchanged, TokenCache.find?_store, other]

/-- An authentication that follows another one of the same tenant comes to the same token, whether
it is cached or granted again. -/
theorem authenticated_again :
  (e.authenticated realm now tenant (e.authenticated realm now tenant cache).2).1
    = (e.authenticated realm now tenant cache).1
  := by
  by_cases hits : ∃ token, cache.active? tenant now = some (some token)
  · obtain ⟨token, hits⟩ := hits
    rw [authenticated_of_hit hits, authenticated_of_hit hits]
  rw [authenticated_of_miss (not_exists.mp hits)]
  cases granted : e.granted realm tenant with
  | error cause =>
    change (e.authenticated realm now tenant cache).1 = .error cause
    rw [authenticated_of_miss (not_exists.mp hits), granted]
    rfl
  | ok token =>
    change (e.authenticated realm now tenant (cache.store tenant token now)).1 = .ok token.value
    by_cases stored : ∃ value, (cache.store tenant token now).active? tenant now = some (some value)
    · obtain ⟨value, stored⟩ := stored
      obtain ⟨cached, found, -, rfl⟩ := TokenCache.active?_eq_some.mp stored
      rw [TokenCache.find?_store, if_pos rfl] at found
      cases found
      rw [authenticated_of_hit stored]
    · rw [authenticated_of_miss (not_exists.mp stored), granted]
      rfl

/-- An authentication comes to the same, whoever was authenticated before. -/
theorem authenticated_after (tenant tenant' : String) :
  (e.authenticated realm now tenant (e.authenticated realm now tenant' cache).2).1
    = (e.authenticated realm now tenant cache).1
  := by
  by_cases same : tenant' = tenant
  · subst same
    apply authenticated_again
  · exact (authenticated_congr (find?_authenticated_of_ne same)).1

/-- Authentications leave the same tokens in either order. -/
theorem authenticated_comm (tenant tenant' key : String) :
  Table.find? (e.authenticated realm now tenant (e.authenticated realm now tenant' cache).2).2 key =
    Table.find? (e.authenticated realm now tenant' (e.authenticated realm now tenant cache).2).2
      key
  := by
  by_cases same : tenant = tenant'
  · rw [same]
  have apart {tenant tenant' : String} (different : tenant ≠ tenant') (cache : TokenCache) :
      Table.find? (e.authenticated realm now tenant (e.authenticated realm now tenant' cache).2).2
        tenant = Table.find? (e.authenticated realm now tenant cache).2 tenant :=
    (authenticated_congr (find?_authenticated_of_ne different.symm)).2
  by_cases first : tenant = key
  · subst first
    rw [apart same, find?_authenticated_of_ne (Ne.symm same)]
  by_cases second : tenant' = key
  · subst second
    rw [apart (Ne.symm same), find?_authenticated_of_ne same]
  simp only [find?_authenticated_of_ne first, find?_authenticated_of_ne second]

/-- The tokens that are issued at a time expire in the calendar. -/
def IsTimely (e : Services τ) (now : Instant) : Prop :=
  ∀ credentials realm token, e.token credentials realm = .ok token →
    (CachedToken.expiry? ⟨token, now⟩).isSome

end Services

/-- The tokens that are cached expire in the calendar. -/
def TokenCache.IsTimely (cache : TokenCache) : Prop :=
  ∀ tenant cached, Table.find? cache tenant = some cached → cached.expiry?.isSome

theorem TokenCache.IsTimely.known {cache : TokenCache} (timely : cache.IsTimely) (now : Instant)
    (tenant : String) :
  cache.active? tenant now ≠ none
  := TokenCache.active?_ne_none (timely tenant) now

namespace Services

variable {τ : Type} {e : Services τ} {realm tenant : String} {now : Instant}
  {cache : TokenCache}

theorem granted_timely (timely : e.IsTimely now) {token : AccessToken}
    (granted : e.granted realm tenant = .ok token) :
  (CachedToken.expiry? ⟨token, now⟩).isSome
  := by
  rw [Services.granted] at granted
  cases held : (e.secret tenant).bind (Credentials.ofSecret tenant) with
  | error cause =>
    rw [held] at granted
    cases granted
  | ok credentials =>
    rw [held] at granted
    exact timely credentials realm token granted

theorem authenticated_timely (timely : e.IsTimely now) (cached : cache.IsTimely) :
  (e.authenticated realm now tenant cache).2.IsTimely
  := by
  rw [authenticated]
  split
  · exact cached
  cases granted : e.granted realm tenant with
  | error cause => exact cached
  | ok token =>
    intro tenant' found' found
    rw [TokenCache.exchanged, TokenCache.find?_store] at found
    split at found
    · cases found
      exact granted_timely timely granted
    · exact cached tenant' found' found

end Services

/-! ## What comes of a pass -/

namespace Services

variable {τ : Type} {e : Services τ} {settings : PassSettings} {now : Instant} {site : Site}
  {memory : Memory} {objects : Site → τ}

/-- A pass goes on with what is stored of its object. -/
theorem run_pass (s : Scene τ) :
  (memory.pass settings now site.kind site.ns site.name).run e.answer s =
    (memory.receive settings now site.ns site.name (e.read site.kind (s.objects site))).run
      e.answer s
  := by
  rw [Memory.pass_eq]
  rfl

theorem pass_of_unloaded {cause : StoreFailure}
    (fails : e.read site.kind (objects site) = .error cause) :
  e.pass settings now site memory objects = ⟨some (.error (.load cause)), [], memory, objects⟩
  := by
  rw [pass, run_pass, fails]
  rfl

theorem pass_of_missing (missing : e.read site.kind (objects site) = .ok none) :
  e.pass settings now site memory objects =
    ⟨some (.ok .done), [], { memory with writes := memory.writes.forget site.key }, objects⟩
  := by
  rw [pass, run_pass, missing]
  rfl

variable {o : Object site.kind}

theorem pass_of_tenantless (found : e.Finds site objects o) (blank : trimBlanks o.tenant = "") :
  e.pass settings now site memory objects = ⟨some (.error .noTenant), [], memory, objects⟩
  := by
  rw [Finds] at found
  rw [pass, run_pass, found, Memory.receive, Memory.visit, if_pos blank]
  rfl

theorem run_visit (told : trimBlanks o.tenant ≠ "")
    (known : memory.tokens.active? (trimBlanks o.tenant) now ≠ none) (s : Scene τ) :
  (memory.visit settings now site.ns o).run e.answer s =
    (memory.serve settings now site.ns o
      (e.authenticated settings.realm now (trimBlanks o.tenant) memory.tokens)).run e.answer s
  := by
  rw [Memory.visit_of_told told, runIn_bind, run_authenticate known]

theorem pass_of_unauthenticated (found : e.Finds site objects o) (told : trimBlanks o.tenant ≠ "")
    (known : memory.tokens.active? (trimBlanks o.tenant) now ≠ none) {cause : AccessFailure}
    {tokens : TokenCache}
    (fails : e.authenticated settings.realm now (trimBlanks o.tenant) memory.tokens
      = (.error cause, tokens)) :
  e.pass settings now site memory objects =
    ⟨some (.error (.authentication cause)), [], { memory with tokens }, objects⟩
  := by
  rw [Finds] at found
  rw [pass, run_pass, found, Memory.receive, run_visit told known, fails]
  rfl

/-- Once a token is obtained, no other tokens are received. -/
theorem after_course_visit (told : trimBlanks o.tenant ≠ "")
    (known : memory.tokens.active? (trimBlanks o.tenant) now ≠ none) {bearer : String}
    {tokens : TokenCache}
    (succeeds : e.authenticated settings.realm now (trimBlanks o.tenant) memory.tokens
      = (.ok bearer, tokens)) (s : Scene τ) :
  memory.tokens.after (trimBlanks o.tenant) now
    ((memory.visit settings now site.ns o).courseIn e.answer s) = tokens
  := by
  have ran : (memory.tokens.authenticate (trimBlanks o.tenant) settings.realm now).run e.answer s
      = _ := run_authenticate known s
  have authenticates := takes_courseIn e.answer
    (memory.tokens.authenticate (trimBlanks o.tenant) settings.realm now) s
  rw [ran, succeeds] at authenticates
  rw [Memory.visit_of_told told, courseIn_bind, ran, succeeds, TokenCache.after_append,
    ← TokenCache.eq_after authenticates]
  apply TokenCache.after_of_isAccess
  exact (takes_courseIn e.answer _ s).asked (Memory.isAccess_serve ..)

theorem pass_of_authenticated (found : e.Finds site objects o) (told : trimBlanks o.tenant ≠ "")
    (known : memory.tokens.active? (trimBlanks o.tenant) now ≠ none) {bearer : String}
    {tokens : TokenCache}
    (succeeds : e.authenticated settings.realm now (trimBlanks o.tenant) memory.tokens
      = (.ok bearer, tokens)) :
  e.pass settings now site memory objects =
    let (ends?, s) := (Task.proceed ⟨o, memory.writes⟩ settings ⟨bearer, site.ns⟩ now).run e.answer
      ⟨objects, []⟩
    ⟨ends?.map (·.1), s.requests, ⟨tokens, (ends?.map (·.2.history)).getD memory.writes⟩, s.objects⟩
  := by
  have tenant : e.tenantAt site objects = trimBlanks o.tenant := by
    rw [tenantAt, found]
  have course : memory.tokens.after (trimBlanks o.tenant) now
      ((memory.pass settings now site.kind site.ns site.name).courseIn e.answer ⟨objects, []⟩)
        = tokens := by
    rw [Memory.pass_eq]
    change memory.tokens.after _ now ((memory.receive settings now site.ns site.name
      (e.read site.kind (objects site))).courseIn e.answer ⟨objects, []⟩) = tokens
    rw [found]
    exact after_course_visit told known succeeds _
  rw [pass, run_pass, found, Memory.receive, run_visit told known, succeeds, Memory.serve,
    runIn_bind, tenant]
  rcases (Task.proceed ⟨o, memory.writes⟩ settings ⟨bearer, site.ns⟩ now).run e.answer
    ⟨objects, []⟩ with ⟨_ | ⟨result, t⟩, s⟩
  · exact congrArg (Outcome.mk none s.requests ⟨·, memory.writes⟩ s.objects) course
  · rfl

end Services

/-! ## Passes in two scenes -/

/-- Two programs ask the same at a time, of what they may ask, and are answered the same. -/
def Coupling.within (may : Operation → Prop) : Coupling Operation.Answer where
  asks operation operation' := operation = operation' ∧ may operation
  answers _ _ answer answer' := HEq answer answer'

theorem Coupling.within_shares {may : Operation → Prop} {operation : Operation}
    (holds : may operation) :
  (within may).Shares operation
  where
  asks := ⟨rfl, holds⟩
  answers _ _ := eq_of_heq

/-- Objects are loaded from some sites and written at one, and no tenant is authenticated. -/
def Operation.KeepsTo (site : Site) (sites : Site → Prop) : Operation → Prop
  | load K ns name => sites ⟨K, ns, name⟩
  | writeStatus _ o | writeFinalizers _ o => o.site = site
  | send _ | count _ => True
  | readSecret _ | logIn _ _ => False

/-- The site is among those that the references of an object lead to. -/
def Reference.LeadTo (ns : String) (references : List (Kind × Reference)) (site : Site) : Prop :=
  ∃ r ∈ references, site = r.2.site ns r.1

theorem Coupling.within_serves (site : Site) (ns bearer : String)
    (references : List (Kind × Reference)) :
  (within (Operation.KeepsTo site (Reference.LeadTo ns references))).Serves ns bearer bearer
    references
  where
  counts _ := within_shares trivial
  loads := by
    rintro _ ⟨r, found, rfl⟩
    exact within_shares ⟨r, found, rfl⟩
  sends _ _ _ := ⟨rfl, trivial⟩
  sent _ _ _ _ := eq_of_heq

theorem Coupling.within_stores {K : Kind} {o : Object K} {site : Site} (named : o.site = site)
    (sites : Site → Prop) :
  (within (Operation.KeepsTo site sites)).Stores o
  where
  counts _ := within_shares trivial
  statuses _ namesake := within_shares (namesake.site.trans named)
  finalizers _ namesake := within_shares (namesake.site.trans named)

/-- Two scenes, each in a pass over the object at a site: the same is stored there in both, and the
same requests were sent; what is stored at other sites is what was there before. -/
structure Scene.Beside {τ : Type} (site : Site) (objects objects' : Site → τ) (s s' : Scene τ) :
    Prop where
  requests : s.requests = s'.requests
  own : s.objects site = s'.objects site
  others : ∀ other, other ≠ site → s.objects other = objects other
  others' : ∀ other, other ≠ site → s'.objects other = objects' other

theorem Scene.Beside.put {τ : Type} {site : Site} {objects objects' : Site → τ} {s s' : Scene τ}
    (h : Beside site objects objects' s s') {stored stored' : τ} (same : stored = stored') :
  Beside site objects objects' (s.put site stored) (s'.put site stored')
  where
  requests := h.requests
  own := by simp [Scene.put, same]
  others other different := by simp [Scene.put, different, h.others other different]
  others' other different := by simp [Scene.put, different, h.others' other different]

namespace Services

variable {τ : Type} {e : Services τ} {objects objects' : Site → τ} {site : Site}

/-- Two scenes stay beside each other if the same is stored at the sites that objects are loaded
from. -/
theorem serves {sites : Site → Prop}
    (agree : ∀ other, sites other → objects other = objects' other)
    (operation operation' : Operation) (s s' : Scene τ)
    (asks : (Coupling.within (Operation.KeepsTo site sites)).asks operation operation')
    (beside : Scene.Beside site objects objects' s s') :
  HEq (e.answer operation s).1 (e.answer operation' s').1 ∧
    Scene.Beside site objects objects' (e.answer operation s).2 (e.answer operation' s').2
  := by
  obtain ⟨rfl, keeps⟩ := asks
  cases operation with
  | load K ns name =>
    have same : s.objects ⟨K, ns, name⟩ = s'.objects ⟨K, ns, name⟩ := by
      by_cases own : ⟨K, ns, name⟩ = site
      · rw [own, beside.own]
      · rw [beside.others _ own, beside.others' _ own, agree _ keeps]
    exact ⟨heq_of_eq (congrArg (e.read K) same), beside⟩
  | writeStatus K o =>
    obtain rfl : o.site = site := keeps
    have same := congrArg (e.writeStatus K o) beside.own
    exact ⟨heq_of_eq (congrArg (·.1) same), beside.put (congrArg (·.2) same)⟩
  | writeFinalizers K o =>
    obtain rfl : o.site = site := keeps
    have same := congrArg (e.writeFinalizers K o) beside.own
    exact ⟨heq_of_eq (congrArg (·.1) same), beside.put (congrArg (·.2) same)⟩
  | readSecret | logIn => cases keeps
  | send request =>
    refine ⟨HEq.rfl, ?_, beside.own, beside.others, beside.others'⟩
    exact congrArg (· ++ [request]) beside.requests
  | count counter => exact ⟨HEq.rfl, beside⟩

/-- Two passes over the object at a site come to the same and send the same.  They store the same
at the site, and leave what is stored elsewhere and what is remembered of other writes. -/
structure Outcome.Beside (site : Site) (memory memory' : Memory) (objects objects' : Site → τ)
    (p p' : Outcome τ) : Prop where
  result : p.result? = p'.result?
  requests : p.requests = p'.requests
  own : p.objects site = p'.objects site
  others : ∀ other, other ≠ site → p.objects other = objects other
  others' : ∀ other, other ≠ site → p'.objects other = objects' other
  writes : ∃ edit : WriteHistory.Edit, p.memory.writes = edit.apply site.key memory.writes ∧
    p'.memory.writes = edit.apply site.key memory'.writes

variable {settings : PassSettings} {now : Instant} {memory memory' : Memory}

/-- Passes that end early send and store nothing. -/
theorem Outcome.Beside.unchanged (own : objects site = objects' site)
    (result? : Option (Except PassFailure Directive)) (tokens tokens' : TokenCache)
    (edit : WriteHistory.Edit) :
  Outcome.Beside site memory memory' objects objects'
    ⟨result?, [], ⟨tokens, edit.apply site.key memory.writes⟩, objects⟩
    ⟨result?, [], ⟨tokens', edit.apply site.key memory'.writes⟩, objects'⟩
  := ⟨rfl, rfl, own, fun _ _ => rfl, fun _ _ => rfl, edit, rfl, rfl⟩

/-- With the same token, passes come to the same where the object and those that it refers to are
stored alike, and the writes of the object are remembered alike. -/
theorem pass_beside_of_authenticated {o : Object site.kind} (own : objects site = objects' site)
    (named : o.site = site)
    (referred : ∀ other, Reference.LeadTo site.ns (site.kind.references o.spec) other →
      objects other = objects' other)
    (writes : Table.find? memory.writes site.key = Table.find? memory'.writes site.key)
    (found : e.Finds site objects o) (found' : e.Finds site objects' o)
    (told : trimBlanks o.tenant ≠ "")
    (known : memory.tokens.active? (trimBlanks o.tenant) now ≠ none)
    (known' : memory'.tokens.active? (trimBlanks o.tenant) now ≠ none)
    {bearer : String} {tokens tokens' : TokenCache}
    (ends : e.authenticated settings.realm now (trimBlanks o.tenant) memory.tokens
      = (.ok bearer, tokens))
    (ends' : e.authenticated settings.realm now (trimBlanks o.tenant) memory'.tokens
      = (.ok bearer, tokens')) :
  Outcome.Beside site memory memory' objects objects' (e.pass settings now site memory objects)
    (e.pass settings now site memory' objects')
  := by
  rw [pass_of_authenticated found told known ends, pass_of_authenticated found' told known' ends']
  have key : o.key = site.key := congrArg Site.key named
  have proceeds : Program.Coupled _ (Task.EndsAlike o.key memory.writes memory'.writes)
      (Task.proceed ⟨o, memory.writes⟩ settings ⟨bearer, site.ns⟩ now)
      (Task.proceed ⟨o, memory'.writes⟩ settings ⟨bearer, site.ns⟩ now) :=
    Task.coupled_proceed (Coupling.within_serves site site.ns bearer _)
      (Coupling.within_stores named _) (key ▸ writes)
  have initially : Scene.Beside site objects objects' ⟨objects, []⟩ ⟨objects', []⟩ :=
    ⟨rfl, own, fun _ _ => rfl, fun _ _ => rfl⟩
  rw [key] at proceeds
  obtain ⟨ran, beside⟩ := proceeds.run (e.serves referred) initially
  generalize (Task.proceed ⟨o, memory.writes⟩ settings ⟨bearer, site.ns⟩ now).run e.answer
    ⟨objects, []⟩ = run, (Task.proceed ⟨o, memory'.writes⟩ settings ⟨bearer, site.ns⟩ now).run
    e.answer ⟨objects', []⟩ = run' at ran beside
  obtain ⟨ends?, s⟩ := run
  obtain ⟨ends?', s'⟩ := run'
  obtain ⟨requests, own, others, others'⟩ := beside
  cases ran with
  | none => exact ⟨rfl, requests, own, others, others', .keep, rfl, rfl⟩
  | some ends =>
    obtain ⟨result, o', edit⟩ := ends
    exact ⟨rfl, requests, own, others, others', edit, rfl, rfl⟩

/-- Passes over an object come to the same where the object and those that it refers to are stored
alike, the writes of the object are remembered alike, and its tenant gets the same token. -/
theorem pass_beside (own : objects site = objects' site)
    (named : ∀ o, e.Finds site objects o → o.site = site)
    (referred : ∀ o, e.Finds site objects o → ∀ other,
      Reference.LeadTo site.ns (site.kind.references o.spec) other → objects other = objects' other)
    (known : ∀ tenant, memory.tokens.active? tenant now ≠ none)
    (known' : ∀ tenant, memory'.tokens.active? tenant now ≠ none)
    (grants : ∀ tenant, (e.authenticated settings.realm now tenant memory.tokens).1
      = (e.authenticated settings.realm now tenant memory'.tokens).1)
    (writes : Table.find? memory.writes site.key = Table.find? memory'.writes site.key) :
  Outcome.Beside site memory memory' objects objects' (e.pass settings now site memory objects)
    (e.pass settings now site memory' objects')
  := by
  rcases found : e.read site.kind (objects site) with cause | _ | o
  · rw [pass_of_unloaded found, pass_of_unloaded (own ▸ found)]
    exact .unchanged own _ _ _ .keep
  · rw [pass_of_missing found, pass_of_missing (own ▸ found)]
    exact .unchanged own _ _ _ .forget
  have found' : e.Finds site objects' o := by rw [Finds, ← own, found]
  by_cases blank : trimBlanks o.tenant = ""
  · rw [pass_of_tenantless found blank, pass_of_tenantless found' blank]
    exact .unchanged own _ _ _ .keep
  have bearers := grants (trimBlanks o.tenant)
  rcases ends : e.authenticated settings.realm now (trimBlanks o.tenant) memory.tokens
    with ⟨bearer?, tokens⟩
  rcases ends' : e.authenticated settings.realm now (trimBlanks o.tenant) memory'.tokens
    with ⟨_, tokens'⟩
  rw [ends, ends'] at bearers
  obtain rfl := bearers
  cases bearer? with
  | error cause =>
    rw [pass_of_unauthenticated found blank (known _) ends,
      pass_of_unauthenticated found' blank (known' _) ends']
    exact .unchanged own _ _ _ .keep
  | ok bearer =>
    exact pass_beside_of_authenticated own (named o found) (referred o found) writes found found'
      blank (known _) (known' _) ends ends'

/-- The tokens that are cached after a pass over an object of a tenant. -/
def tokensAfter (e : Services τ) (realm : String) (now : Instant) (tenant : String)
    (cache : TokenCache) : TokenCache :=
  if tenant = "" then cache else (e.authenticated realm now tenant cache).2

theorem tokens_pass (known : ∀ tenant, memory.tokens.active? tenant now ≠ none) :
  (e.pass settings now site memory objects).memory.tokens
    = e.tokensAfter settings.realm now (e.tenantAt site objects) memory.tokens
  := by
  rcases found : e.read site.kind (objects site) with cause | _ | o
  · rw [pass_of_unloaded found, tenantAt, found]
    rfl
  · rw [pass_of_missing found, tenantAt, found]
    rfl
  have tenant : e.tenantAt site objects = trimBlanks o.tenant := by rw [tenantAt, found]
  rw [tenant, tokensAfter]
  by_cases blank : trimBlanks o.tenant = ""
  · rw [pass_of_tenantless found blank, if_pos blank]
  rw [if_neg blank]
  rcases ends : e.authenticated settings.realm now (trimBlanks o.tenant) memory.tokens
    with ⟨cause | bearer, tokens⟩
  · rw [pass_of_unauthenticated found blank (known _) ends]
  · rw [pass_of_authenticated found blank (known _) ends]
    rfl

theorem tokensAfter_timely {realm tenant : String} {cache : TokenCache} (timely : e.IsTimely now)
    (cached : cache.IsTimely) :
  (e.tokensAfter realm now tenant cache).IsTimely
  := by
  rw [tokensAfter]
  split
  · exact cached
  · exact authenticated_timely timely cached

/-- A pass leaves every tenant the token that it gets. -/
theorem authenticated_tokensAfter {realm : String} {cache : TokenCache} (tenant tenant' : String) :
  (e.authenticated realm now tenant cache).1
    = (e.authenticated realm now tenant (e.tokensAfter realm now tenant' cache)).1
  := by
  rw [tokensAfter]
  split
  · rfl
  · exact (authenticated_after tenant tenant').symm

theorem tokensAfter_comm {realm : String} {cache : TokenCache} (tenant tenant' key : String) :
  Table.find? (e.tokensAfter realm now tenant (e.tokensAfter realm now tenant' cache)) key
    = Table.find? (e.tokensAfter realm now tenant' (e.tokensAfter realm now tenant cache)) key
  := by
  simp only [tokensAfter]
  split
  · rfl
  split
  · rfl
  · apply authenticated_comm

theorem tenantAt_congr {objects objects' : Site → τ} (same : objects site = objects' site) :
  e.tenantAt site objects = e.tenantAt site objects'
  := by
  rw [tenantAt, same, tenantAt]

/-- The object at a site is stored under its names, and its references do not lead to another
site. -/
structure IsApart (e : Services τ) (objects : Site → τ) (site other : Site) : Prop where
  named : ∀ o, e.Finds site objects o → o.site = site
  unrelated : ∀ o, e.Finds site objects o →
    ¬ Reference.LeadTo site.ns (site.kind.references o.spec) other

variable {site' : Site}

/-- A pass leaves other objects as they are stored, and what is remembered of their writes. -/
theorem pass_spares (named : ∀ o, e.Finds site objects o → o.site = site)
    (cached : memory.tokens.IsTimely) :
  let p := e.pass settings now site memory objects
  (∀ other, other ≠ site → p.objects other = objects other) ∧
    ∃ edit : WriteHistory.Edit, p.memory.writes = edit.apply site.key memory.writes
  := by
  intro p
  have known := cached.known now
  have beside : Outcome.Beside site memory memory objects objects p p :=
    pass_beside rfl named (fun _ _ _ _ => rfl) known known (fun _ => rfl) rfl
  obtain ⟨edit, writes, -⟩ := beside.writes
  exact ⟨beside.others, edit, writes⟩

/-- A pass comes to the same after a pass over another object, and leaves the same at its site. -/
theorem pass_after (apart : e.IsApart objects site site') (apart' : e.IsApart objects site' site)
    (different : site.key ≠ site'.key) (timely : e.IsTimely now)
    (cached : memory.tokens.IsTimely) :
  let before := e.pass settings now site' memory objects
  Outcome.Beside site memory before.memory objects before.objects
    (e.pass settings now site memory objects)
    (e.pass settings now site before.memory before.objects)
  := by
  intro before
  obtain ⟨untouched, edit, writes⟩ : (∀ other, other ≠ site' →
      before.objects other = objects other) ∧ _ := pass_spares apart'.named cached
  have tokens : before.memory.tokens = _ := tokens_pass (cached.known now)
  apply pass_beside
  · refine (untouched site ?_).symm
    rintro rfl
    exact different rfl
  · exact apart.named
  · intro o found other leads
    refine (untouched other ?_).symm
    rintro rfl
    exact apart.unrelated o found leads
  · exact cached.known now
  · rw [tokens]
    exact (tokensAfter_timely timely cached).known now
  · rw [tokens]
    exact fun tenant => authenticated_tokensAfter tenant _
  · rw [writes, WriteHistory.Edit.find?_apply_of_ne edit different.symm]

/-- After a pass over another object, a pass caches the tokens of both tenants. -/
theorem tokens_pass_after (apart' : e.IsApart objects site' site) (different : site ≠ site')
    (timely : e.IsTimely now) (cached : memory.tokens.IsTimely) :
  let before := e.pass settings now site' memory objects
  (e.pass settings now site before.memory before.objects).memory.tokens =
    e.tokensAfter settings.realm now (e.tenantAt site objects)
      (e.tokensAfter settings.realm now (e.tenantAt site' objects) memory.tokens)
  := by
  intro before
  have tokens : before.memory.tokens = _ := tokens_pass (cached.known now)
  obtain ⟨untouched, -⟩ : (∀ other, other ≠ site' → before.objects other = objects other) ∧ _ :=
    pass_spares apart'.named cached
  rw [tokens_pass, tokens, tenantAt_congr (untouched site different)]
  rw [tokens]
  exact (tokensAfter_timely timely cached).known now

/-- **Passes over unrelated objects commute**: in either order they store the same, come to the
same results, send the same requests each, and leave the same tokens and the same history of
writes. -/
theorem passes_commute (plain : site.IsPlain) (plain' : site'.IsPlain) (different : site ≠ site')
    (apart : e.IsApart objects site site') (apart' : e.IsApart objects site' site)
    (timely : e.IsTimely now) (cached : memory.tokens.IsTimely) :
  let first := e.pass settings now site memory objects
  let second := e.pass settings now site' first.memory first.objects
  let first' := e.pass settings now site' memory objects
  let second' := e.pass settings now site first'.memory first'.objects
  second.objects = second'.objects ∧
    (first.result? = second'.result? ∧ second.result? = first'.result?) ∧
    (first.requests = second'.requests ∧ second.requests = first'.requests) ∧
    (∀ tenant, Table.find? second.memory.tokens tenant
      = Table.find? second'.memory.tokens tenant) ∧
    ∀ key, Table.find? second.memory.writes key = Table.find? second'.memory.writes key
  := by
  intro first second first' second'
  have keys : site.key ≠ site'.key := fun same => different (Site.key_injective plain plain' same)
  have beside : Outcome.Beside site memory first'.memory objects first'.objects first second' :=
    pass_after apart apart' keys timely cached
  have beside' : Outcome.Beside site' memory first.memory objects first.objects first' second :=
    pass_after apart' apart keys.symm timely cached
  refine ⟨?_, ⟨beside.result, beside'.result.symm⟩,
    ⟨beside.requests, beside'.requests.symm⟩, ?_, ?_⟩
  · funext other
    by_cases own : other = site
    · rw [own, beside'.others' site different, beside.own]
    by_cases own' : other = site'
    · rw [own', ← beside'.own, beside.others' site' different.symm]
    rw [beside'.others' other own', beside.others other own, beside.others' other own,
      beside'.others other own']
  · intro tenant
    have tokens : second.memory.tokens = _ :=
      tokens_pass_after apart different.symm timely cached
    have tokens' : second'.memory.tokens = _ := tokens_pass_after apart' different timely cached
    rw [tokens, tokens']
    apply tokensAfter_comm
  · intro key
    obtain ⟨edit, writes, writes'⟩ := beside.writes
    obtain ⟨edit', written, written'⟩ := beside'.writes
    rw [written', writes, writes', written]
    exact WriteHistory.Edit.find?_apply_comm edit' edit keys.symm memory.writes key

/-! ### Two projects of a tenant -/

/-- Services that store projects, log every client in and answer every request alike. -/
def ofProjects : Services (Option (Object .project)) where
  read
    | .project, stored => .ok stored
    | _, _ => .ok none
  writeStatus
    | .project, o, _ => (.ok o, some o)
    | _, o, stored => (.ok o, stored)
  writeFinalizers
    | .project, o, _ => (.ok o, some o)
    | _, o, stored => (.ok o, stored)
  secret _ := .ok [(Credentials.idKey, "client"), (Credentials.secretKey, "secret")]
  token _ _ := .ok ⟨"token", 300⟩
  response _ := .ok (Turn.reportOn "Active")

/-- A project of a name in the namespace `shop` whose remote resource is to be created. -/
def creating (name : String) : Object .project :=
  { Object.payments.withStatus { Status.initial .project with phase := some .creating } with
    metadata := { Object.payments.metadata with name := some name } }

/-- Where the project `payments` is stored. -/
def payments : Site :=
  ⟨.project, "shop", "payments"⟩

/-- Where the project `billing` is stored. -/
def billing : Site :=
  ⟨.project, "shop", "billing"⟩

/-- The projects `payments` and `billing` are stored, and no other ones. -/
def projects (site : Site) : Option (Object .project) :=
  if site = payments then some (creating "payments")
  else if site = billing then some (creating "billing")
  else none

/-- The settings of the passes over the projects. -/
def projectSettings : PassSettings :=
  ⟨10_000_000_000, 3600_000_000_000, "cloud"⟩

theorem isApart_projects {name : String} (other : Site)
    (stored : projects ⟨.project, "shop", name⟩ = some (creating name)) :
  ofProjects.IsApart projects ⟨.project, "shop", name⟩ other
  where
  named o found := by
    obtain rfl := Option.some.inj (stored.symm.trans (Except.ok.inj found))
    rfl
  unrelated := by
    rintro o - ⟨r, found, -⟩
    cases found

/-- Each pass creates the remote resource of its project. -/
theorem bearers_projects :
  let first := ofProjects.pass projectSettings ⟨0, 0⟩ payments .empty projects
  let second := ofProjects.pass projectSettings ⟨0, 0⟩ billing first.memory first.objects
  first.requests.map (·.bearer) = ["token"] ∧ second.requests.map (·.bearer) = ["token"]
  := by
  decide +kernel

/-- Passes over two projects of one tenant, for whom both need a token, commute. -/
theorem passes_commute_projects :
  let first := ofProjects.pass projectSettings ⟨0, 0⟩ payments .empty projects
  let second := ofProjects.pass projectSettings ⟨0, 0⟩ billing first.memory first.objects
  let first' := ofProjects.pass projectSettings ⟨0, 0⟩ billing .empty projects
  let second' := ofProjects.pass projectSettings ⟨0, 0⟩ payments first'.memory first'.objects
  (payments.IsPlain ∧ billing.IsPlain ∧ payments ≠ billing ∧
      ofProjects.IsApart projects payments billing ∧
      ofProjects.IsApart projects billing payments ∧
      ofProjects.IsTimely ⟨0, 0⟩ ∧ Memory.empty.tokens.IsTimely) ∧
    (first.requests.map (·.bearer) = ["token"] ∧ second.requests.map (·.bearer) = ["token"]) ∧
    second.objects = second'.objects ∧
    (first.result? = second'.result? ∧ second.result? = first'.result?) ∧
    (first.requests = second'.requests ∧ second.requests = first'.requests) ∧
    (∀ tenant, Table.find? second.memory.tokens tenant
      = Table.find? second'.memory.tokens tenant) ∧
    ∀ key, Table.find? second.memory.writes key = Table.find? second'.memory.writes key
  := by
  have plain : payments.IsPlain := ⟨by decide, by decide⟩
  have plain' : billing.IsPlain := ⟨by decide, by decide⟩
  have different : payments ≠ billing := by decide
  have apart : ofProjects.IsApart projects payments billing := isApart_projects _ rfl
  have apart' : ofProjects.IsApart projects billing payments := isApart_projects _ rfl
  have timely : ofProjects.IsTimely ⟨0, 0⟩ := by
    rintro credentials realm token ⟨⟩
    decide
  have cached : Memory.empty.tokens.IsTimely := nofun
  exact ⟨⟨plain, plain', different, apart, apart', timely, cached⟩, bearers_projects,
    passes_commute plain plain' different apart apart' timely cached⟩

end Services

end CloudOperator
