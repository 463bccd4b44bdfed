import CloudOperator.Access.Authentication
import CloudOperator.Proofs.Stored

/-!
# Courses of authentications

What an authentication asks and comes to, part by part: the look into the cache
(`TokenCache.takes_hit?`), the read of the secret (`TokenCache.takes_credentials`) and the
exchange for a token (`TokenCache.takes_exchange`).

The look into the cache finds the token of the tenant if it is valid
(`TokenCache.active?_eq_some`).  `TokenCache.takes_authenticate` puts the parts together: the
cached token is used, or one is obtained in one of the ways that `TokenCache.Obtains` lists.
-/

namespace CloudOperator

open Program

/-- A cached token can be used before it expires. -/
def CachedToken.IsValid (cached : CachedToken) (now : Instant) : Prop :=
  ∃ expiry, cached.expiry? = some expiry ∧ now < expiry

theorem CachedToken.isExpired?_eq_false {cached : CachedToken} {now : Instant} :
  cached.isExpired? now = some false ↔ cached.IsValid now
  := by
  rw [isExpired?, Option.map_eq_some_iff, IsValid]
  apply exists_congr
  intro expiry
  rw [decide_eq_false_iff_not]
  apply and_congr_right
  intro _
  apply Classical.not_not

namespace TokenCache

variable {cache : TokenCache} {tenant realm : String} {now : Instant} {course : Course}

theorem find?_store (cache : TokenCache) (tenant tenant' : String) (token : AccessToken)
    (now : Instant) :
  Table.find? (cache.store tenant token now) tenant' =
    if tenant = tenant' then some ⟨token, now⟩ else Table.find? cache tenant'
  := Table.find?_insert ..

/-- The token that can be used is the cached one of the tenant, if it is valid. -/
theorem active?_eq_some {token : String} :
  cache.active? tenant now = some (some token) ↔
    ∃ cached, Table.find? cache tenant = some cached ∧ cached.IsValid now ∧
      cached.token.value = token
  := by
  simp only [← CachedToken.isExpired?_eq_false]
  rcases found : Table.find? cache tenant with _ | cached
  · simp [active?, found]
  · rcases expired : cached.isExpired? now with _ | _ | _ <;> simp [active?, found, expired]

/-- It is known whether a token can be used if it is known when the cached one expires. -/
theorem active?_ne_none
    (readable : ∀ cached, Table.find? cache tenant = some cached → cached.expiry?.isSome)
    (now : Instant) :
  cache.active? tenant now ≠ none
  := by
  rcases found : Table.find? cache tenant with _ | cached
  · simp [active?, found]
  · obtain ⟨expiry, expires⟩ := Option.isSome_iff_exists.mp (readable cached found)
    simp [active?, found, CachedToken.isExpired?, expires]

/-- No token can be used if none is cached for the tenant, or if the cached one is expired. -/
theorem active?_eq_none
    (readable : ∀ cached, Table.find? cache tenant = some cached → cached.expiry?.isSome) :
  cache.active? tenant now = some none ↔
    ¬ ∃ cached, Table.find? cache tenant = some cached ∧ cached.IsValid now
  := by
  obtain ⟨token?, known⟩ := Option.ne_none_iff_exists'.mp (active?_ne_none readable now)
  rw [known]
  cases token? with
  | none =>
    refine iff_of_true rfl ?_
    rintro ⟨cached, found, valid⟩
    rw [active?_eq_some.mpr ⟨cached, found, valid, rfl⟩] at known
    cases known
  | some token =>
    obtain ⟨cached, found, valid, -⟩ := active?_eq_some.mp known
    exact iff_of_false nofun fun none => none ⟨cached, found, valid⟩

/-- A look into the cache asks for a count if it finds a token, and else for nothing. -/
theorem takes_hit? {token? : Option String}
    (h : (cache.hit? tenant now).Takes course (some token?)) :
  cache.active? tenant now = some token? ∧
    course = if token?.isSome then [⟨.count .tokenCacheHits, ()⟩] else []
  := by
  obtain ⟨-, ⟨⟩⟩ | ⟨active?, first, second, rfl, finds, goes⟩ := takes_bind.mp h
  obtain ⟨rfl, found⟩ := takes_ofOption.mp finds
  rw [← found]
  split at goes
  · obtain ⟨-, ⟨⟩⟩ | ⟨_, rest, rfl, returns⟩ := takes_question_bind.mp goes
    obtain ⟨rfl, ⟨⟩⟩ := takes_done.mp returns
    exact ⟨rfl, (if_pos ‹_›).symm⟩
  · obtain ⟨rfl, ⟨⟩⟩ := takes_done.mp goes
    exact ⟨rfl, (if_neg ‹_›).symm⟩

/-- The credentials of a tenant are those in the secret that is read. -/
theorem takes_credentials {result? : Option (Except AccessFailure Credentials)}
    (h : (credentials tenant).Takes course result?) :
  course = [] ∧ result? = none ∨
    ∃ secret?, course = [⟨.readSecret tenant, secret?⟩] ∧
      result? = some (secret?.bind (Credentials.ofSecret tenant))
  := by
  obtain ⟨rfl, rfl⟩ | ⟨secret?, rest, rfl, goes⟩ := takes_question_bind.mp h
  · exact .inl ⟨rfl, rfl⟩
  · cases secret? <;> obtain ⟨rfl, rfl⟩ := takes_done.mp goes
    · exact .inr ⟨_, rfl, rfl⟩
    · exact .inr ⟨_, rfl, rfl⟩

/-- What an exchange comes to: a token that is received is cached. -/
def exchanged (cache : TokenCache) (tenant : String) (now : Instant) :
    Except AccessFailure AccessToken → Except AccessFailure String × TokenCache
  | .error cause => (.error cause, cache)
  | .ok token => (.ok token.value, cache.store tenant token now)

/-- An exchange is answered, and comes to what the answer says. -/
theorem takes_exchange {credentials : Credentials}
    {result? : Option (Except AccessFailure String × TokenCache)}
    (h : (cache.exchange tenant credentials realm now).Takes course result?) :
  course = [] ∧ result? = none ∨
    ∃ answer counted, course = ⟨.logIn credentials realm, answer⟩ :: counted ∧
      (counted = [] ∧ result? = none ∨
        (∃ counter, counted = [⟨.count counter, ()⟩]) ∧
          result? = some (cache.exchanged tenant now answer))
  := by
  obtain ⟨rfl, rfl⟩ | ⟨answer, rest, rfl, goes⟩ := takes_question_bind.mp h
  · exact .inl ⟨rfl, rfl⟩
  right
  refine ⟨answer, rest, rfl, ?_⟩
  cases answer with
  | error cause =>
    obtain ⟨rfl, rfl⟩ | ⟨-, rest, rfl, returns⟩ := takes_question_bind.mp goes
    · exact .inl ⟨rfl, rfl⟩
    · obtain ⟨rfl, rfl⟩ := takes_done.mp returns
      exact .inr ⟨⟨_, rfl⟩, rfl⟩
  | ok token =>
    obtain ⟨rfl, rfl⟩ | ⟨-, rest, rfl, returns⟩ := takes_question_bind.mp goes
    · exact .inl ⟨rfl, rfl⟩
    · obtain ⟨rfl, rfl⟩ := takes_done.mp returns
      exact .inr ⟨⟨_, rfl⟩, rfl⟩

/-- The cache after an exchange with the surroundings of a pass over an object of a tenant. -/
def afterExchange (tenant : String) (now : Instant) (cache : TokenCache) :
    Exchange Operation.Answer → TokenCache
  | ⟨.logIn _ _, .ok token⟩ => cache.store tenant token now
  | _ => cache

/-- The cache after a course of a pass over an object of a tenant. -/
def after (cache : TokenCache) (tenant : String) (now : Instant) (course : Course) :
    TokenCache :=
  course.foldl (afterExchange tenant now) cache

theorem afterExchange_of_isAccess {exchange : Exchange Operation.Answer}
    (other : exchange.question.isAccess = false) :
  afterExchange tenant now cache exchange = cache
  := by
  unfold afterExchange
  split
  · cases other
  · rfl

/-- Only an exchange for a token changes the cache. -/
theorem after_of_isAccess (others : ∀ exchange ∈ course, exchange.question.isAccess = false) :
  cache.after tenant now course = cache
  := by
  induction course with
  | nil => rfl
  | cons exchange course ih =>
    obtain ⟨other, others⟩ := List.forall_mem_cons.mp others
    rw [after, List.foldl_cons, afterExchange_of_isAccess other]
    apply ih others

theorem after_append (first second : Course) :
  cache.after tenant now (first ++ second) = (cache.after tenant now first).after tenant now second
  := List.foldl_append

/-- How a token is obtained for a tenant of whom none is cached, by one rule for each point that
it gets to. -/
inductive Obtains (cache : TokenCache) (tenant realm : String) (now : Instant) :
    Course → Option (Except AccessFailure String × TokenCache) → Prop
  | unanswered : Obtains cache tenant realm now [] none
  | unread {secret? : Except AccessFailure Secret} {cause : AccessFailure}
      (fails : secret?.bind (Credentials.ofSecret tenant) = .error cause) :
      Obtains cache tenant realm now [⟨.readSecret tenant, secret?⟩]
        (some (.error cause, cache))
  | read {secret? : Except AccessFailure Secret} {credentials : Credentials}
      (holds : secret?.bind (Credentials.ofSecret tenant) = .ok credentials) :
      Obtains cache tenant realm now [⟨.readSecret tenant, secret?⟩] none
  | exchanged {secret? : Except AccessFailure Secret} {credentials : Credentials}
      (holds : secret?.bind (Credentials.ofSecret tenant) = .ok credentials)
      (answer : Except AccessFailure AccessToken) :
      Obtains cache tenant realm now
        [⟨.readSecret tenant, secret?⟩, ⟨.logIn credentials realm, answer⟩] none
  | counted {secret? : Except AccessFailure Secret} {credentials : Credentials}
      (holds : secret?.bind (Credentials.ofSecret tenant) = .ok credentials)
      (answer : Except AccessFailure AccessToken) (counter : Counter) :
      Obtains cache tenant realm now
        [⟨.readSecret tenant, secret?⟩, ⟨.logIn credentials realm, answer⟩, ⟨.count counter, ()⟩]
        (some (cache.exchanged tenant now answer))

theorem authenticate_of_hit {token : String} (hits : cache.active? tenant now = some (some token)) :
  cache.authenticate tenant realm now =
    (Pass.count .tokenCacheHits).bind fun _ => .done (.ok token, cache)
  := by
  rw [authenticate, hit?, hits]
  rfl

theorem authenticate_of_miss (misses : cache.active? tenant now = some none) :
  cache.authenticate tenant realm now =
    (credentials tenant).bind fun
      | .error cause => .done (.error cause, cache)
      | .ok credentials => cache.exchange tenant credentials realm now
  := by
  rw [authenticate, hit?, misses]
  rfl

theorem obtains_of_miss {result? : Option (Except AccessFailure String × TokenCache)}
    (misses : cache.active? tenant now = some none)
    (h : (cache.authenticate tenant realm now).Takes course result?) :
  cache.Obtains tenant realm now course result?
  := by
  rw [authenticate_of_miss misses] at h
  obtain ⟨reads, rfl⟩ | ⟨credentials?, first, second, rfl, reads, goes⟩ := takes_bind.mp h
  · obtain ⟨rfl, -⟩ | ⟨secret?, -, ⟨⟩⟩ := takes_credentials reads
    apply Obtains.unanswered
  obtain ⟨-, ⟨⟩⟩ | ⟨secret?, rfl, same⟩ := takes_credentials reads
  rw [Option.some_inj] at same
  cases credentials? with
  | error cause =>
    obtain ⟨rfl, rfl⟩ := takes_done.mp goes
    apply Obtains.unread same.symm
  | ok credentials =>
    obtain ⟨rfl, rfl⟩ | ⟨answer, _, rfl, ⟨rfl, rfl⟩ | ⟨⟨counter, rfl⟩, rfl⟩⟩ := takes_exchange goes
    · apply Obtains.read same.symm
    · apply Obtains.exchanged same.symm
    · apply Obtains.counted same.symm

/-- An authentication uses the cached token, or it obtains one; it does neither if the calendar
ends before it is known when the cached token expires. -/
theorem takes_authenticate {result? : Option (Except AccessFailure String × TokenCache)}
    (h : (cache.authenticate tenant realm now).Takes course result?) :
  (course = [] ∧ result? = none) ∨
    (∃ token, cache.active? tenant now = some (some token) ∧
      course = [⟨.count .tokenCacheHits, ()⟩] ∧ result? = some (.ok token, cache)) ∨
    cache.active? tenant now = some none ∧ cache.Obtains tenant realm now course result?
  := by
  rcases active : cache.active? tenant now with _ | _ | token
  · rw [authenticate, hit?, active] at h
    exact .inl (takes_overflow.mp h)
  · exact .inr (.inr ⟨rfl, obtains_of_miss active h⟩)
  · rw [authenticate_of_hit active] at h
    obtain ⟨rfl, rfl⟩ | ⟨_, rest, rfl, goes⟩ := takes_question_bind.mp h
    · exact .inl ⟨rfl, rfl⟩
    · obtain ⟨rfl, rfl⟩ := takes_done.mp goes
      exact .inr (.inl ⟨token, rfl, rfl, rfl⟩)

end TokenCache

end CloudOperator
