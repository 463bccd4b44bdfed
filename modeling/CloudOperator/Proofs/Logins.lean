import CloudOperator.Access.Login
import CloudOperator.Proofs.Authentication

/-!
# Logins side by side

Any number of logins, of any tenants, get ahead in any order: each from one halt to the next,
at a time of its own, and with whatever it is answered.  A login may also halt in the queue of
its tenant before it looks whether it has its turn, and it may be given up wherever it is.

* `Login.advances_resume` lists the ways from one halt to the next.
* `LoginRun.orderly` says what is in the queues: whoever reads a secret or exchanges credentials
  is at the head of the queue of its tenant (`Orderly`), by one lemma for each way.
* `LoginRun.serializes` says that the exchanges of a tenant happen one after the other, that no
  tenant waits for another one, and that a token is reused while it is valid (`Serialized`).
-/

namespace CloudOperator

open Program

namespace Login

variable {l l' : Login} {hall hall' : LoginHall} {realm : String} {now : Instant}
  {course : Course}

/-! ## From one halt to the next -/

@[simp]
theorem number_halt (l : Login) (stage : LoginStage) :
  (l.halt stage).number = l.number
  := rfl

@[simp]
theorem tenant_halt (l : Login) (stage : LoginStage) :
  (l.halt stage).tenant = l.tenant
  := rfl

@[simp]
theorem stage_halt (l : Login) (stage : LoginStage) :
  (l.halt stage).stage = stage
  := rfl

/-- Whether a login reads the secret of its tenant, or exchanges credentials for a token. -/
def isInside (l : Login) : Bool :=
  match l.stage with
  | .reading | .exchanging _ => true
  | _ => false

/-- Whether a login is in the queue of its tenant. -/
def isEnqueued (l : Login) : Bool :=
  match l.stage with
  | .queued | .reading | .exchanging _ => true
  | _ => false

theorem isEnqueued_of_isInside (inside : l.isInside) :
  l.isEnqueued
  := by
  unfold isInside at inside
  split at inside
  · simp [isEnqueued, *]
  · simp [isEnqueued, *]
  · cases inside

/-- Whether a login came to its end. -/
def isOver (l : Login) : Bool :=
  match l.stage with
  | .finished _ => true
  | _ => false

/-- The tokens that a login receives on a course at the time `now`, the last one first. -/
def receives (l : Login) (now : Instant) (course : Course) : List (String × CachedToken) :=
  course.reverse.filterMap fun
    | ⟨.logIn _ _, .ok token⟩ => some (l.tenant, ⟨token, now⟩)
    | _ => none

/-- The login is in its queue, or joins it. -/
inductive Enters (l : Login) (hall : LoginHall) : LoginHall → Prop
  | joins (start : l.stage = .start) : Enters l hall (hall.join l)
  | stays (queued : l.stage = .queued) : Enters l hall hall

/-- What may be cached for a login is a token that it may use. -/
def Hits (l : Login) (tokens : TokenCache) (now : Instant) (token : String) : Prop :=
  l.source.usesCache ∧ tokens.active? l.tenant now = some (some token)

/-- A login gets from one halt to the next on a course, by one rule for each way. -/
inductive Advances (l : Login) (hall : LoginHall) (realm : String) (now : Instant) :
    Course → Login → LoginHall → Prop
  | ended (ended : l.isOver) : Advances l hall realm now [] l hall
  | hits {token : String} (start : l.stage = .start) (hits : l.Hits hall.tokens now token) :
      Advances l hall realm now [⟨.count .tokenCacheHits, ()⟩] (l.halt (.finished (.ok token)))
        hall
  | waits {entered : LoginHall} (enters : l.Enters hall entered) (behind : ¬ entered.isTurnOf l) :
      Advances l hall realm now [] (l.halt .queued) entered
  | reuses {entered : LoginHall} {token : String} (enters : l.Enters hall entered)
      (turn : entered.isTurnOf l) (hits : l.Hits hall.tokens now token) :
      Advances l hall realm now [⟨.count .tokenCacheHits, ()⟩] (l.halt (.finished (.ok token)))
        (entered.leave l)
  | begins {entered : LoginHall} {stage : LoginStage} (enters : l.Enters hall entered)
      (turn : entered.isTurnOf l) (misses : ∀ token, ¬ l.Hits hall.tokens now token)
      (inside : (l.halt stage).isInside) :
      Advances l hall realm now [] (l.halt stage) entered
  | unread {secret? : Except AccessFailure Secret} {cause : AccessFailure}
      (reading : l.stage = .reading) :
      Advances l hall realm now [⟨.readSecret l.tenant, secret?⟩]
        (l.halt (.finished (.error cause))) (hall.leave l)
  | read {secret? : Except AccessFailure Secret} {credentials : Credentials}
      (reading : l.stage = .reading) :
      Advances l hall realm now [⟨.readSecret l.tenant, secret?⟩]
        (l.halt (.exchanging credentials)) hall
  | exchanged {credentials : Credentials} {answer : Except AccessFailure AccessToken}
      {counter : Counter} (exchanging : l.stage = .exchanging credentials) :
      Advances l hall realm now [⟨.logIn credentials realm, answer⟩, ⟨.count counter, ()⟩]
        (l.halt (.finished (hall.tokens.exchanged l.tenant now answer).1))
        (LoginHall.leave { hall with tokens := (hall.tokens.exchanged l.tenant now answer).2 } l)

theorem Enters.tokens {entered : LoginHall} (h : l.Enters hall entered) :
  entered.tokens = hall.tokens
  := by
  cases h with
  | joins start => rfl
  | stays queued => rfl

theorem takes_hit? {token? : Option String}
    (h : (l.hit? hall now).Takes course (some token?)) :
  (token? = none ∧ course = [] ∧ ∀ token, ¬ l.Hits hall.tokens now token) ∨
    ∃ token, token? = some token ∧ course = [⟨.count .tokenCacheHits, ()⟩] ∧
      l.Hits hall.tokens now token
  := by
  rw [hit?] at h
  split at h
  · obtain ⟨found, rfl⟩ := TokenCache.takes_hit? h
    cases token? with
    | none => exact .inl ⟨rfl, rfl, by simp [Hits, found]⟩
    | some token => exact .inr ⟨token, rfl, rfl, ‹_›, found⟩
  · obtain ⟨rfl, ⟨⟩⟩ := takes_done.mp h
    exact .inl ⟨rfl, rfl, by simp [Hits, *]⟩

theorem advances_takeTurn {entered : LoginHall} (enters : l.Enters hall entered)
    (h : (l.takeTurn entered now).Takes course (some (l', hall'))) :
  l.Advances hall realm now course l' hall'
  := by
  rw [takeTurn] at h
  split at h
  · obtain ⟨rfl, ⟨⟩⟩ := takes_done.mp h
    exact .waits enters ‹_›
  have turn : entered.isTurnOf l := Classical.not_not.mp ‹_›
  obtain ⟨-, ⟨⟩⟩ | ⟨token?, first, second, rfl, finds, goes⟩ := takes_bind.mp h
  obtain ⟨rfl, rfl, misses⟩ | ⟨token, rfl, rfl, hits⟩ := takes_hit? finds
  · rw [enters.tokens] at misses
    dsimp only at goes
    split at goes
    · obtain ⟨rfl, ⟨⟩⟩ := takes_done.mp goes
      exact .begins enters turn misses rfl
    · obtain ⟨rfl, ⟨⟩⟩ := takes_done.mp goes
      exact .begins enters turn misses rfl
  · rw [enters.tokens] at hits
    obtain ⟨rfl, ⟨⟩⟩ := takes_done.mp goes
    exact .reuses enters turn hits

/-- A login that is resumed gets to its next halt. -/
theorem advances_resume (h : (l.resume hall realm now).Takes course (some (l', hall'))) :
  l.Advances hall realm now course l' hall'
  := by
  rw [resume] at h
  split at h
  · obtain ⟨-, ⟨⟩⟩ | ⟨token?, first, second, rfl, finds, goes⟩ := takes_bind.mp h
    obtain ⟨rfl, rfl, -⟩ | ⟨token, rfl, rfl, hits⟩ := takes_hit? finds
    · exact advances_takeTurn (.joins ‹_›) goes
    · obtain ⟨rfl, ⟨⟩⟩ := takes_done.mp goes
      exact .hits ‹_› hits
  · exact advances_takeTurn (.stays ‹_›) h
  · obtain ⟨-, ⟨⟩⟩ | ⟨credentials?, first, second, rfl, reads, goes⟩ := takes_bind.mp h
    obtain ⟨-, ⟨⟩⟩ | ⟨secret?, rfl, -⟩ := TokenCache.takes_credentials reads
    cases credentials? with
    | error cause =>
      obtain ⟨rfl, ⟨⟩⟩ := takes_done.mp goes
      exact .unread ‹_›
    | ok credentials =>
      obtain ⟨rfl, ⟨⟩⟩ := takes_done.mp goes
      exact .read ‹_›
  · obtain ⟨-, ⟨⟩⟩ | ⟨⟨result, tokens⟩, first, second, rfl, exchanges, goes⟩ := takes_bind.mp h
    obtain ⟨-, ⟨⟩⟩ | ⟨answer, counted, rfl, ⟨-, ⟨⟩⟩ | ⟨⟨counter, rfl⟩, same⟩⟩ :=
      TokenCache.takes_exchange exchanges
    obtain ⟨rfl, rfl⟩ := Prod.ext_iff.mp (Option.some.inj same)
    obtain ⟨rfl, ⟨⟩⟩ := takes_done.mp goes
    exact .exchanged ‹_›
  · obtain ⟨rfl, ⟨⟩⟩ := takes_done.mp h
    apply Advances.ended
    simp [isOver, *]

/-- The login waits for its turn. -/
def IsBlocked (l : Login) (hall : LoginHall) : Prop :=
  l.stage = .queued ∧ ¬ hall.isTurnOf l

end Login

/-- How far a login is that halts at a stage. -/
def LoginStage.rank : LoginStage → Nat
  | start => 0
  | queued => 1
  | reading => 2
  | exchanging _ => 3
  | finished _ => 4

namespace LoginHall

variable (hall : LoginHall) (l : Login) (tenant : String)

theorem queue_join :
  (hall.join l).queue tenant =
    if l.tenant = tenant then hall.queue tenant ++ [l.number] else hall.queue tenant
  := by
  rw [join, queue, Table.find?_insert]
  split
  · rename_i same
    rw [← same]
    rfl
  · rfl

theorem queue_leave :
  (hall.leave l).queue tenant =
    if l.tenant = tenant then (hall.queue tenant).erase l.number else hall.queue tenant
  := by
  rw [leave, queue, Table.find?_insert]
  split
  · rename_i same
    rw [← same]
    rfl
  · rfl

end LoginHall

namespace Login

variable {l l' : Login} {hall hall' : LoginHall} {realm : String} {now : Instant}
  {course : Course}

theorem Enters.queue {entered : LoginHall} (h : l.Enters hall entered) {tenant : String}
    (other : l.tenant ≠ tenant) :
  entered.queue tenant = hall.queue tenant
  := by
  cases h with
  | joins start => rw [LoginHall.queue_join, if_neg other]
  | stays queued => rfl

theorem Enters.rank_le {entered : LoginHall} (h : l.Enters hall entered) :
  l.stage.rank ≤ 1
  := by
  cases h with
  | joins start => simp [start, LoginStage.rank]
  | stays queued => simp [queued, LoginStage.rank]

/-- Where a login gets to its next halt, what other tenants share stays as it is. -/
theorem Advances.frame (h : l.Advances hall realm now course l' hall') {tenant : String}
    (other : l.tenant ≠ tenant) :
  hall'.queue tenant = hall.queue tenant ∧
    Table.find? hall'.tokens tenant = Table.find? hall.tokens tenant
  := by
  cases h with
  | ended | hits | read => exact ⟨rfl, rfl⟩
  | waits enters | begins enters => exact ⟨enters.queue other, by rw [enters.tokens]⟩
  | reuses enters =>
    rw [LoginHall.queue_leave, if_neg other]
    exact ⟨enters.queue other, by rw [LoginHall.leave, enters.tokens]⟩
  | unread =>
    rw [LoginHall.queue_leave, if_neg other]
    exact ⟨rfl, rfl⟩
  | @exchanged _ answer =>
    rw [LoginHall.queue_leave, if_neg other]
    refine ⟨rfl, ?_⟩
    cases answer with
    | error cause => rfl
    | ok token => exact (TokenCache.find?_store ..).trans (if_neg other)

/-- A login gets ahead unless it is over or waits for its turn. -/
theorem Advances.rank_lt (h : l.Advances hall realm now course l' hall') (unfinished : ¬ l.isOver)
    (free : ¬ l.IsBlocked hall) :
  l.stage.rank < l'.stage.rank
  := by
  cases h with
  | ended ended => cases unfinished ended
  | hits start => simp [start, LoginStage.rank]
  | waits enters behind =>
    cases enters with
    | joins start => simp [start, LoginStage.rank]
    | stays queued => cases free ⟨queued, behind⟩
  | reuses enters =>
    apply Nat.lt_of_le_of_lt enters.rank_le
    simp [LoginStage.rank]
  | @begins entered stage enters turn misses inside =>
    apply Nat.lt_of_le_of_lt enters.rank_le
    cases stage with
    | reading | exchanging => simp [LoginStage.rank]
    | start | queued | finished => cases inside
  | unread reading | read reading => simp [reading, LoginStage.rank]
  | exchanged exchanging => simp [exchanging, LoginStage.rank]

/-- The tokens that are cached are those that were received last. -/
theorem Advances.find?_tokens (h : l.Advances hall realm now course l' hall')
    {received : List (String × CachedToken)}
    (same : ∀ tenant, Table.find? hall.tokens tenant = Table.find? received tenant)
    (tenant : String) :
  Table.find? hall'.tokens tenant = Table.find? (l.receives now course ++ received) tenant
  := by
  cases h with
  | ended | hits | unread | read => exact same tenant
  | waits enters | begins enters | reuses enters =>
    rw [← enters.tokens] at same
    exact same tenant
  | @exchanged _ answer =>
    cases answer with
    | error cause => exact same tenant
    | ok token =>
      apply (TokenCache.find?_store ..).trans
      rw [same]
      rfl

theorem hit?_congr {hall₂ : LoginHall}
    (tokens : Table.find? hall₂.tokens l.tenant = Table.find? hall.tokens l.tenant) :
  l.hit? hall₂ now = l.hit? hall now
  := by
  simp only [hit?, TokenCache.hit?, TokenCache.active?, tokens]

theorem takeTurn_congr {hall₂ : LoginHall}
    (queue : hall₂.queue l.tenant = hall.queue l.tenant)
    (tokens : Table.find? hall₂.tokens l.tenant = Table.find? hall.tokens l.tenant) :
  Prod.fst <$> l.takeTurn hall₂ now = Prod.fst <$> l.takeTurn hall now
  := by
  rw [takeTurn, takeTurn, hit?_congr tokens, LoginHall.isTurnOf, LoginHall.isTurnOf, queue]
  split
  · rfl
  · rw [map_bind, map_bind]
    congr 1
    funext token?
    cases token? with
    | some token => rfl
    | none => cases l.source <;> rfl

/-- What a login asks, and where it halts next, depends only on what its own tenant shares. -/
theorem resume_congr {hall₂ : LoginHall}
    (queue : hall₂.queue l.tenant = hall.queue l.tenant)
    (tokens : Table.find? hall₂.tokens l.tenant = Table.find? hall.tokens l.tenant) :
  Prod.fst <$> l.resume hall₂ realm now = Prod.fst <$> l.resume hall realm now
  := by
  rw [resume, resume]
  split
  · rw [map_bind, map_bind, hit?_congr tokens]
    congr 1
    funext token?
    cases token? with
    | some token => rfl
    | none =>
      have joined : (hall₂.join l).queue l.tenant = (hall.join l).queue l.tenant := by
        rw [LoginHall.queue_join, LoginHall.queue_join, queue]
      exact takeTurn_congr joined tokens
  · exact takeTurn_congr queue tokens
  · rw [map_bind, map_bind]
    congr 1
    funext credentials?
    cases credentials? <;> rfl
  · apply congrArg (Program.ask _)
    funext answer
    cases answer <;> rfl
  · rfl

theorem stays_hit? (active : hall.tokens.active? l.tenant now ≠ none) :
  (l.hit? hall now).Stays
  := by
  obtain ⟨token?, found⟩ := Option.ne_none_iff_exists'.mp active
  rw [hit?]
  split
  · rw [TokenCache.hit?, found]
    cases token? with
    | none => trivial
    | some token => exact fun _ => trivial
  · trivial

theorem stays_takeTurn (active : hall.tokens.active? l.tenant now ≠ none) :
  (l.takeTurn hall now).Stays
  := by
  rw [takeTurn]
  split
  · trivial
  · apply (stays_hit? active).bind
    rintro (_ | token)
    · cases l.source <;> trivial
    · trivial

/-- A login that is resumed comes to its next halt, unless the calendar ends before it is known
when the token of its tenant expires. -/
theorem stays_resume (active : hall.tokens.active? l.tenant now ≠ none) :
  (l.resume hall realm now).Stays
  := by
  rw [resume]
  split
  · apply (stays_hit? active).bind
    rintro (_ | token)
    · exact stays_takeTurn active
    · trivial
  · exact stays_takeTurn active
  · refine Stays.bind ?_ ?_
    · rintro (cause | secret)
      · trivial
      · trivial
    · rintro (cause | credentials)
      · trivial
      · trivial
  · rintro (cause | token)
    · exact fun _ => trivial
    · exact fun _ => trivial
  · trivial

/-- A login that finds a valid token when it begins or has its turn returns this token, and
asks for nothing but a count. -/
theorem resume_of_isValid {cached : CachedToken}
    (found : Table.find? hall.tokens l.tenant = some cached) (valid : cached.IsValid now)
    (uses : l.source.usesCache)
    (ready : l.stage = .start ∨ l.stage = .queued ∧ hall.isTurnOf l) :
  ∃ hall', hall'.tokens = hall.tokens ∧ l.resume hall realm now =
    (Pass.count .tokenCacheHits).bind fun _ =>
      .done (l.halt (.finished (.ok cached.token.value)), hall')
  := by
  have hit : l.hit? hall now =
      (Pass.count .tokenCacheHits).bind fun _ => .done (some cached.token.value) := by
    rw [hit?, if_pos uses, TokenCache.hit?,
      TokenCache.active?_eq_some.mpr ⟨cached, found, valid, rfl⟩]
    rfl
  obtain start | ⟨queued, turn⟩ := ready
  · refine ⟨hall, rfl, ?_⟩
    rw [resume, start]
    dsimp only
    rw [hit]
    rfl
  · refine ⟨hall.leave l, rfl, ?_⟩
    rw [resume, queued]
    dsimp only
    rw [takeTurn, if_neg (Classical.not_not.mpr turn), hit]
    rfl

end Login

/-! ## Logins in any order -/

/-- Logins that get ahead in any order, from a cache on: the logins that are under way, by
their numbers, what they share, and the tokens that were received, the last one first. -/
inductive LoginRun (realm : String) (cache : TokenCache) :
    Table Nat Login → LoginHall → List (String × CachedToken) → Prop
  | opened : LoginRun realm cache [] ⟨cache, []⟩ cache
  | arrived {logins : Table Nat Login} {hall : LoginHall} {received : List (String × CachedToken)}
      {l : Login} (run : LoginRun realm cache logins hall received) (start : l.stage = .start)
      (fresh : Table.find? logins l.number = none) :
      LoginRun realm cache (Table.insert logins l.number l) hall received
  | queued {logins : Table Nat Login} {hall : LoginHall} {received : List (String × CachedToken)}
      {n : Nat} {l : Login} (run : LoginRun realm cache logins hall received)
      (found : Table.find? logins n = some l) (start : l.stage = .start) :
      LoginRun realm cache (Table.insert logins n (l.halt .queued)) (hall.join l) received
  | resumed {logins : Table Nat Login} {hall hall' : LoginHall}
      {received : List (String × CachedToken)} {n : Nat} {l l' : Login} {now : Instant}
      {course : Course} (run : LoginRun realm cache logins hall received)
      (found : Table.find? logins n = some l)
      (resumes : (l.resume hall realm now).Takes course (some (l', hall'))) :
      LoginRun realm cache (Table.insert logins n l') hall'
        (l.receives now course ++ received)
  | abandoned {logins : Table Nat Login} {hall : LoginHall}
      {received : List (String × CachedToken)} {n : Nat} {l : Login}
      (run : LoginRun realm cache logins hall received)
      (found : Table.find? logins n = some l) :
      LoginRun realm cache (Table.erase logins n) (hall.leave l) received

/-- Every login is found by its number.  The queue of a tenant holds the logins of the tenant
that have their turn or wait for it, each once, and who reads a secret or exchanges credentials
has the turn. -/
structure Orderly (logins : Table Nat Login) (hall : LoginHall) : Prop where
  numbered : ∀ n l, Table.find? logins n = some l → l.number = n
  once : ∀ tenant, (hall.queue tenant).Nodup
  enqueued : ∀ tenant n, n ∈ hall.queue tenant ↔
    ∃ l, Table.find? logins n = some l ∧ l.tenant = tenant ∧ l.isEnqueued
  turns : ∀ n l, Table.find? logins n = some l → l.isInside → hall.isTurnOf l

namespace Orderly

variable {logins logins' : Table Nat Login} {hall hall' : LoginHall} {n : Nat} {l : Login}
  {stage : LoginStage}

/-- If only one login gets ahead then the order is kept if it is for this login, and if the
others stay in the queues and at the heads of them. -/
theorem moved (h : Orderly logins hall)
    (elsewhere : ∀ m, n ≠ m → Table.find? logins' m = Table.find? logins m)
    (here : ∀ l, Table.find? logins' n = some l → l.number = n ∧ (l.isInside → hall'.isTurnOf l))
    (once : ∀ tenant, (hall'.queue tenant).Nodup)
    (mine : ∀ tenant, n ∈ hall'.queue tenant ↔
      ∃ l, Table.find? logins' n = some l ∧ l.tenant = tenant ∧ l.isEnqueued)
    (others : ∀ tenant m, n ≠ m → (m ∈ hall'.queue tenant ↔ m ∈ hall.queue tenant))
    (heads : ∀ tenant m, n ≠ m → (hall.queue tenant).head? = some m →
      (hall'.queue tenant).head? = some m) :
  Orderly logins' hall'
  where
  numbered m other at_m := by
    by_cases same : n = m
    · subst m
      apply (here other at_m).1
    · rw [elsewhere m same] at at_m
      apply h.numbered m other at_m
  once := once
  enqueued tenant m := by
    by_cases same : n = m
    · subst m
      apply mine
    · rw [others tenant m same, elsewhere m same]
      apply h.enqueued
  turns m other at_m inside := by
    by_cases same : n = m
    · subst m
      apply (here other at_m).2 inside
    · rw [elsewhere m same] at at_m
      have turn := h.turns m other at_m inside
      rw [LoginHall.isTurnOf, decide_eq_true_iff, h.numbered m other at_m] at turn ⊢
      apply heads _ _ same turn

/-- A login is in no queue unless it is found there. -/
theorem mem_queue_iff (h : Orderly logins hall) (found : Table.find? logins n = some l)
    (tenant : String) :
  n ∈ hall.queue tenant ↔ l.tenant = tenant ∧ l.isEnqueued
  := by
  rw [h.enqueued, found]
  simp

/-- The order is kept if a login arrives. -/
theorem arrived (h : Orderly logins hall) (start : l.stage = .start)
    (fresh : Table.find? logins l.number = none) :
  Orderly (Table.insert logins l.number l) hall
  := by
  have out : l.isEnqueued = false := by
    simp [Login.isEnqueued, start]
  apply h.moved (n := l.number)
  · intro m other
    rw [Table.find?_insert, if_neg other]
  · intro l' at_n
    rw [Table.find?_insert, if_pos rfl] at at_n
    cases at_n
    refine ⟨rfl, fun inside => ?_⟩
    rw [Login.isEnqueued_of_isInside inside] at out
    cases out
  · exact h.once
  · intro tenant
    rw [h.enqueued, fresh, Table.find?_insert, if_pos rfl]
    simp [out]
  · intro tenant m _
    rfl
  · intro tenant m _ head
    exact head

/-- The order is kept if the queues are as they were. -/
theorem stayed (h : Orderly logins hall) (found : Table.find? logins n = some l)
    (queue : ∀ tenant, hall'.queue tenant = hall.queue tenant)
    (same : (l.halt stage).isEnqueued = l.isEnqueued)
    (turn : (l.halt stage).isInside → hall.isTurnOf l) :
  Orderly (Table.insert logins n (l.halt stage)) hall'
  := by
  apply h.moved (n := n)
  · intro m other
    rw [Table.find?_insert, if_neg other]
  · intro l' at_n
    rw [Table.find?_insert, if_pos rfl] at at_n
    cases at_n
    refine ⟨h.numbered n l found, fun inside => ?_⟩
    rw [LoginHall.isTurnOf, queue]
    apply turn inside
  · intro tenant
    rw [queue]
    apply h.once
  · intro tenant
    rw [queue, h.mem_queue_iff found, Table.find?_insert, if_pos rfl, ← same]
    simp
  · intro tenant m _
    rw [queue]
  · intro tenant m _ head
    rw [queue, head]

/-- The order is kept if a login joins its queue. -/
theorem joined (h : Orderly logins hall) (found : Table.find? logins n = some l)
    (start : l.stage = .start) (enqueued : (l.halt stage).isEnqueued)
    (turn : (l.halt stage).isInside → (hall.join l).isTurnOf l) :
  Orderly (Table.insert logins n (l.halt stage)) (hall.join l)
  := by
  have number := h.numbered n l found
  have absent (tenant : String) : n ∉ hall.queue tenant := by
    rw [h.mem_queue_iff found]
    simp [Login.isEnqueued, start]
  apply h.moved (n := n)
  · intro m other
    rw [Table.find?_insert, if_neg other]
  · intro l' at_n
    rw [Table.find?_insert, if_pos rfl] at at_n
    cases at_n
    exact ⟨number, turn⟩
  · intro tenant
    rw [LoginHall.queue_join]
    split
    · rw [number, List.nodup_append]
      refine ⟨h.once tenant, by simp, ?_⟩
      rintro m among m' same rfl
      obtain rfl := List.mem_singleton.mp same
      apply absent tenant among
    · apply h.once
  · intro tenant
    rw [LoginHall.queue_join, Table.find?_insert, if_pos rfl, number]
    by_cases own : l.tenant = tenant
    · simp [own, enqueued]
    · simp [own, absent]
  · intro tenant m other
    rw [LoginHall.queue_join, number]
    split
    · simp [Ne.symm other]
    · rfl
  · intro tenant m other head
    rw [LoginHall.queue_join]
    split
    · simp [head]
    · apply head

/-- The order is kept if a login leaves its queue, at its end or before. -/
theorem left (h : Orderly logins hall) (found : Table.find? logins n = some l)
    (queue : ∀ tenant, hall'.queue tenant = (hall.leave l).queue tenant)
    (elsewhere : ∀ m, n ≠ m → Table.find? logins' m = Table.find? logins m)
    (here : ∀ l, Table.find? logins' n = some l → l.number = n ∧ l.isEnqueued = false) :
  Orderly logins' hall'
  := by
  have number := h.numbered n l found
  have gone (tenant : String) : n ∉ hall'.queue tenant := by
    rw [queue, LoginHall.queue_leave, number]
    split
    · apply (h.once tenant).not_mem_erase
    · rw [h.mem_queue_iff found]
      exact fun own => ‹l.tenant ≠ tenant› own.1
  apply h.moved elsewhere
  · intro l' at_n
    obtain ⟨number', out⟩ := here l' at_n
    refine ⟨number', fun inside => ?_⟩
    rw [Login.isEnqueued_of_isInside inside] at out
    cases out
  · intro tenant
    rw [queue, LoginHall.queue_leave]
    split
    · apply (h.once tenant).erase
    · apply h.once
  · intro tenant
    refine iff_of_false (gone tenant) ?_
    rintro ⟨l', at_n, -, enqueued⟩
    rw [(here l' at_n).2] at enqueued
    cases enqueued
  · intro tenant m other
    rw [queue, LoginHall.queue_leave, number]
    split
    · apply List.mem_erase_of_ne (Ne.symm other)
    · rfl
  · intro tenant m other head
    rw [queue, LoginHall.queue_leave, number]
    split
    · obtain ⟨rest, same⟩ := List.head?_eq_some_iff.mp head
      rw [same, List.erase_cons_tail (by simpa using Ne.symm other)]
      rfl
    · apply head

/-- The order is kept where a login gets from one halt to the next. -/
theorem advanced (h : Orderly logins hall) (found : Table.find? logins n = some l) {l' : Login}
    {realm : String} {now : Instant} {course : Course}
    (advances : l.Advances hall realm now course l' hall') :
  Orderly (Table.insert logins n l') hall'
  := by
  have number := h.numbered n l found
  have ends {result : Except AccessFailure String}
      (queue : ∀ tenant, hall'.queue tenant = (hall.leave l).queue tenant) :
      Orderly (Table.insert logins n (l.halt (.finished result))) hall' := by
    apply h.left found queue
    · intro m other
      rw [Table.find?_insert, if_neg other]
    · intro l' at_n
      rw [Table.find?_insert, if_pos rfl] at at_n
      cases at_n
      exact ⟨number, rfl⟩
  cases advances with
  | ended ended => exact h.stayed found (fun _ => rfl) rfl (h.turns n l found)
  | hits start hits =>
    refine h.stayed found (fun _ => rfl) ?_ nofun
    simp [Login.isEnqueued, start]
  | waits enters behind =>
    cases enters with
    | joins start => exact h.joined found start rfl nofun
    | stays queued =>
      refine h.stayed found (fun _ => rfl) ?_ nofun
      simp [Login.isEnqueued, queued]
  | reuses enters turn hits =>
    cases enters with
    | joins start =>
      apply ends
      intro tenant
      have absent : l.number ∉ hall.queue tenant := by
        rw [number, h.mem_queue_iff found]
        simp [Login.isEnqueued, start]
      rw [LoginHall.queue_leave, LoginHall.queue_join, LoginHall.queue_leave]
      split
      · simp [List.erase_append_right _ absent, List.erase_of_not_mem absent]
      · rfl
    | stays queued => exact ends fun _ => rfl
  | begins enters turn misses inside =>
    have enqueued := Login.isEnqueued_of_isInside inside
    cases enters with
    | joins start => exact h.joined found start enqueued fun _ => turn
    | stays queued =>
      refine h.stayed found (fun _ => rfl) ?_ fun _ => turn
      rw [enqueued, Login.isEnqueued, queued]
  | unread reading => exact ends fun _ => rfl
  | read reading =>
    have inside : l.isInside := by
      simp [Login.isInside, reading]
    refine h.stayed found (fun _ => rfl) ?_ fun _ => h.turns n l found inside
    simp [Login.isEnqueued, reading]
  | exchanged exchanging => exact ends fun _ => rfl

end Orderly

/-- The exchanges of a tenant happen one after the other, and no tenant is in the way of
another one. -/
structure Serialized (realm : String) (logins : Table Nat Login) (hall : LoginHall)
    (received : List (String × CachedToken)) : Prop where
  /-- Of the logins of a tenant one at most reads the secret or exchanges credentials. -/
  alone : ∀ n m l l', Table.find? logins n = some l → Table.find? logins m = some l' →
    l.tenant = l'.tenant → l.isInside → l'.isInside → n = m
  /-- A login waits only for another one of its tenant, which does not wait itself. -/
  waits : ∀ n l, Table.find? logins n = some l → l.IsBlocked hall →
    ∃ m holder, m ≠ n ∧ Table.find? logins m = some holder ∧ holder.tenant = l.tenant ∧
      holder.isEnqueued ∧ ¬ holder.IsBlocked hall
  /-- A login that does not wait gets ahead until it is over. -/
  ahead : ∀ n l, Table.find? logins n = some l → ¬ l.isOver → ¬ l.IsBlocked hall →
    ∀ now course l' hall', (l.resume hall realm now).Takes course (some (l', hall')) →
      l.stage.rank < l'.stage.rank
  /-- Only an answer that is due keeps it from that, unless the calendar ends before it is known
  when the token that was received last for its tenant expires. -/
  answered : ∀ n l, Table.find? logins n = some l →
    (∀ cached, Table.find? received l.tenant = some cached → cached.expiry?.isSome) →
    ∀ now course, (l.resume hall realm now).Takes course none →
      (l.resume hall realm now).Awaits course
  /-- The steps of a login leave what other tenants share. -/
  frame : ∀ n l, Table.find? logins n = some l →
    ∀ now course l' hall', (l.resume hall realm now).Takes course (some (l', hall')) →
      ∀ tenant, l.tenant ≠ tenant → hall'.queue tenant = hall.queue tenant ∧
        Table.find? hall'.tokens tenant = Table.find? hall.tokens tenant
  /-- What a login asks, and where it halts next, depends only on what its own tenant
  shares. -/
  depends : ∀ n l, Table.find? logins n = some l → ∀ now (hall₂ : LoginHall),
    hall₂.queue l.tenant = hall.queue l.tenant →
    Table.find? hall₂.tokens l.tenant = Table.find? hall.tokens l.tenant →
    Prod.fst <$> l.resume hall₂ realm now = Prod.fst <$> l.resume hall realm now
  /-- A login that has its turn while the token that was received last for its tenant is
  valid returns this token, and asks for nothing but a count. -/
  reuses : ∀ n l, Table.find? logins n = some l → ∀ now cached,
    Table.find? received l.tenant = some cached → cached.IsValid now → l.source.usesCache →
    l.stage = .start ∨ l.stage = .queued ∧ hall.isTurnOf l →
    ∃ hall', hall'.tokens = hall.tokens ∧ l.resume hall realm now =
      (Pass.count .tokenCacheHits).bind fun _ =>
        .done (l.halt (.finished (.ok cached.token.value)), hall')

namespace LoginRun

variable {realm : String} {cache : TokenCache} {logins : Table Nat Login} {hall : LoginHall}
  {received : List (String × CachedToken)}

theorem orderly (run : LoginRun realm cache logins hall received) :
  Orderly logins hall
  := by
  induction run with
  | opened => exact ⟨by simp, fun _ => List.nodup_nil, by simp [LoginHall.queue], by simp⟩
  | arrived run start fresh ih => exact ih.arrived start fresh
  | queued run found start ih =>
    apply ih.joined found start rfl
    intro inside
    cases inside
  | resumed run found resumes ih =>
    exact ih.advanced found (Login.advances_resume resumes)
  | abandoned run found ih =>
    apply ih.left found (fun _ => rfl)
    · intro m other
      rw [Table.find?_erase, if_neg other]
    · intro l' at_n
      rw [Table.find?_erase, if_pos rfl] at at_n
      cases at_n

theorem find?_tokens (run : LoginRun realm cache logins hall received) (tenant : String) :
  Table.find? hall.tokens tenant = Table.find? received tenant
  := by
  induction run generalizing tenant with
  | opened => rfl
  | arrived _ _ _ ih => apply ih
  | queued _ _ _ ih => apply ih
  | resumed run found resumes ih => exact (Login.advances_resume resumes).find?_tokens ih tenant
  | abandoned _ _ ih => apply ih

/-- Whoever waits does so for another login of the same tenant, which has the turn. -/
theorem exists_of_isBlocked (run : LoginRun realm cache logins hall received) {n : Nat}
    {l : Login} (found : Table.find? logins n = some l) (blocked : l.IsBlocked hall) :
  ∃ m holder, m ≠ n ∧ Table.find? logins m = some holder ∧ holder.tenant = l.tenant ∧
    holder.isEnqueued ∧ hall.isTurnOf holder
  := by
  obtain ⟨queued, behind⟩ := blocked
  have order := run.orderly
  have number := order.numbered n l found
  have waits : n ∈ hall.queue l.tenant := by
    rw [order.mem_queue_iff found]
    simp [Login.isEnqueued, queued]
  obtain ⟨m, rest, queue⟩ := List.exists_cons_of_ne_nil (List.ne_nil_of_mem waits)
  have head : m ∈ hall.queue l.tenant := by
    rw [queue]
    apply List.mem_cons_self
  obtain ⟨holder, at_m, same, enqueued⟩ := (order.enqueued l.tenant m).mp head
  have turn : hall.isTurnOf holder := by
    rw [LoginHall.isTurnOf, same, queue, order.numbered m holder at_m]
    simp
  refine ⟨m, holder, ?_, at_m, same, enqueued, turn⟩
  rintro rfl
  obtain rfl := Option.some.inj (at_m.symm.trans found)
  apply behind turn

/-- Every run of logins side by side serializes the exchanges of a tenant, and lets other
tenants alone. -/
theorem serializes (run : LoginRun realm cache logins hall received) :
  Serialized realm logins hall received
  where
  alone n m l l' at_n at_m same inside inside' := by
    have order := run.orderly
    have turn := order.turns n l at_n inside
    have turn' := order.turns m l' at_m inside'
    rw [LoginHall.isTurnOf, decide_eq_true_iff, order.numbered n l at_n] at turn
    rw [LoginHall.isTurnOf, decide_eq_true_iff, order.numbered m l' at_m, ← same, turn] at turn'
    apply Option.some.inj turn'
  waits n l found blocked := by
    obtain ⟨m, holder, other, at_m, same, enqueued, turn⟩ := run.exists_of_isBlocked found blocked
    exact ⟨m, holder, other, at_m, same, enqueued, fun blocked => blocked.2 turn⟩
  ahead n l found unfinished free now course l' hall' resumes :=
    (Login.advances_resume resumes).rank_lt unfinished free
  answered n l found readable now course stops := by
    rw [← run.find?_tokens] at readable
    apply (Login.stays_resume (TokenCache.active?_ne_none readable now)).awaits stops
  frame n l found now course l' hall' resumes tenant other :=
    (Login.advances_resume resumes).frame other
  depends n l found now hall₂ queue tokens := Login.resume_congr queue tokens
  reuses n l found now cached last valid uses ready := by
    rw [← run.find?_tokens] at last
    apply Login.resume_of_isValid last valid uses ready

end LoginRun

namespace LoginRun.Rush

/-- One of two logins of a tenant. -/
def first : Login :=
  ⟨0, "ARU-1", .secret, .start⟩

/-- The other one of them. -/
def second : Login :=
  ⟨1, "ARU-1", .secret, .start⟩

/-- A login of another tenant. -/
def third : Login :=
  ⟨2, "ARU-2", .secret, .start⟩

/-- The client of the first tenant. -/
def client : Credentials :=
  ⟨"client", "secret"⟩

/-- The token of the first tenant. -/
def cached : CachedToken :=
  ⟨⟨"token", 300⟩, ⟨1, 0⟩⟩

/-- The first login received a token while the second one waited and the third one began. -/
def logins : Table Nat Login :=
  [(0, first.halt (.finished (.ok "token"))), (1, second.halt .queued), (2, third.halt .reading)]

/-- What is shared then. -/
def hall : LoginHall :=
  ⟨[("ARU-1", cached)], [("ARU-1", [1]), ("ARU-2", [2])]⟩

theorem run :
  LoginRun "cloud" [] logins hall [("ARU-1", cached)]
  := by
  have entered : LoginRun "cloud" [] [(0, first), (1, second), (2, third)] ⟨[], []⟩ [] :=
    ((opened.arrived (l := first) rfl rfl).arrived (l := second) rfl rfl).arrived
      (l := third) rfl rfl
  have begins : (first.resume ⟨[], []⟩ "cloud" ⟨0, 0⟩).Takes []
      (some (first.halt .reading, ⟨[], [("ARU-1", [0])]⟩)) := .done _
  have waits : (second.resume ⟨[], [("ARU-1", [0])]⟩ "cloud" ⟨0, 0⟩).Takes []
      (some (second.halt .queued, ⟨[], [("ARU-1", [0, 1])]⟩)) := .done _
  have begins' : (third.resume ⟨[], [("ARU-1", [0, 1])]⟩ "cloud" ⟨0, 0⟩).Takes []
      (some (third.halt .reading, ⟨[], [("ARU-1", [0, 1]), ("ARU-2", [2])]⟩)) := .done _
  have reads : ((first.halt .reading).resume ⟨[], [("ARU-1", [0, 1]), ("ARU-2", [2])]⟩ "cloud"
      ⟨0, 0⟩).Takes
      [⟨.readSecret "ARU-1", .ok [(Credentials.idKey, "client"), (Credentials.secretKey, "secret")]⟩]
      (some (first.halt (.exchanging client), ⟨[], [("ARU-1", [0, 1]), ("ARU-2", [2])]⟩)) :=
    .answered (.done _)
  have exchanges : ((first.halt (.exchanging client)).resume
      ⟨[], [("ARU-1", [0, 1]), ("ARU-2", [2])]⟩ "cloud" ⟨1, 0⟩).Takes
      [⟨.logIn client "cloud", .ok ⟨"token", 300⟩⟩, ⟨.count (.tokenExchanges "success"), ()⟩]
      (some (first.halt (.finished (.ok "token")), hall)) :=
    .answered (.answered (.done _))
  exact ((((entered.resumed (n := 0) rfl begins).resumed (n := 1) rfl waits).resumed (n := 2) rfl
    begins').resumed (n := 0) rfl reads).resumed (n := 0) rfl exchanges

end LoginRun.Rush

/-- Two tenants log in, one of them twice: the second login has its turn and a valid token, and
the third one reads the secret of the other tenant. -/
theorem LoginRun.serializes_rush :
  Rush.hall.isTurnOf Rush.second ∧ Rush.cached.IsValid ⟨5, 0⟩ ∧
    (Rush.third.halt .reading).isInside ∧
    Serialized "cloud" Rush.logins Rush.hall [("ARU-1", Rush.cached)]
  := by
  have valid : Rush.cached.IsValid ⟨5, 0⟩ := ⟨⟨291, 0⟩, by decide, by decide⟩
  exact ⟨by decide, valid, rfl, Rush.run.serializes⟩

end CloudOperator
