import CloudOperator.Proofs.SecretPath

/-!
# Logins to the secret store

Calls for the secrets of any tenants, one after the other, keep the token of the last login while
its lease is used and no read was forbidden.  What is kept is thereby told by the history of what
was asked and answered alone (`Vault.Calls.kept_eq`), by one lemma for each event
(`Vault.remembered_cons`).  So a login is sent when it is due, every read carries the token of the
last login, and a login that fails leaves everything as it was
(`Vault.Calls.logs_in_when_due`).
-/

namespace CloudOperator

open Program

namespace VaultLease

/-- The span for which a token is used: nine tenths of its lease, and a year without one. -/
def use (l : VaultLease) : Int :=
  if 0 < l.seconds.toInt then l.seconds.toInt * 900_000_000 else 365 * 86_400_000_000_000

theorem span?_eq {l : VaultLease} {span : Int} (h : l.span? = some span) :
  span = l.use
  := by
  rw [span?] at h
  rw [use]
  split
  · rw [if_pos ‹_›] at h
    obtain ⟨whole, fits, rfl⟩ := Option.map_eq_some_iff.mp h
    simp only [spanOfSeconds?, Option.ite_none_right_eq_some, Option.some_inj] at fits
    rw [← fits.2, nanosPerSecond, Int.tdiv_eq_ediv_of_nonneg (by omega)]
    omega
  · rw [if_neg ‹_›] at h
    cases h
    rfl

/-- A token expires when the span for which it is used has passed since the login. -/
theorem expiry?_eq {l : VaultLease} {now expiry : Instant} (h : l.expiry? now = some expiry) :
  expiry = now.shift l.use
  := by
  obtain ⟨span, spans, adds⟩ := Option.bind_eq_some_iff.mp h
  obtain rfl := span?_eq spans
  simp only [Instant.add?, Option.ite_none_right_eq_some, Option.some_inj] at adds
  exact adds.2.symm

end VaultLease

/-- The settings can stand in an address and in headers. -/
structure VaultSettings.IsSendable (s : VaultSettings) : Prop where
  address : (Url.read (Vault.address s ("auth/" ++ s.rolePath ++ "/login"))).isSome
  header : HttpRequest.isHeaderValue s.ns = true

namespace Vault

/-! ## Histories -/

/-- Something that was asked in a call at the time `now`, with the answer. -/
structure Event where
  now : Instant
  exchange : Exchange fun _ : HttpRequest => Except String Response

namespace Event

/-- The time and the lease of a login, if the event is a login that succeeded. -/
def login? (e : Event) : Option (Instant × VaultLease) :=
  match e.exchange.question.method, e.exchange.answer with
  | .post, .ok r => r.lease?.map (e.now, ·)
  | _, _ => none

/-- Whether the event is a read that was forbidden. -/
def isForbiddenRead (e : Event) : Bool :=
  e.exchange.question.method = .get && isForbidden e.exchange.answer

end Event

/-- The events of a call, the last one first. -/
def events (now : Instant) (traffic : Traffic) : List Event :=
  (traffic.map (⟨now, ·⟩)).reverse

/-- The time and the lease of the last login that succeeded; the last event comes first. -/
def lastLogin? (history : List Event) : Option (Instant × VaultLease) :=
  history.findSome? Event.login?

/-- Whether a read was forbidden since the last login that succeeded. -/
def isForbiddenSince (history : List Event) : Bool :=
  (history.takeWhile (·.login?.isNone)).any Event.isForbiddenRead

/-- The token of the last login, unless a read was forbidden since. -/
def remembered (history : List Event) : Option VaultToken :=
  if isForbiddenSince history then none
  else (lastLogin? history).map fun (time, lease) => ⟨lease.token, time.shift lease.use⟩

/-- The calendar holds the times when the tokens of all logins expire. -/
def IsReadable (history : List Event) : Prop :=
  ∀ e ∈ history, ∀ time lease, e.login? = some (time, lease) → (lease.expiry? time).isSome

/-- The token that is kept after an event. -/
def keptAfter (kept : Option VaultToken) (e : Event) : Option VaultToken :=
  match e.login? with
  | some (time, lease) =>
    match lease.expiry? time with
    | some expiry => some ⟨lease.token, expiry⟩
    | none => kept
  | none => if e.isForbiddenRead then none else kept

/-- The token that is kept after what was asked and answered in a call. -/
def keptThrough (kept : Option VaultToken) (now : Instant) (traffic : Traffic) :
    Option VaultToken :=
  traffic.foldl (fun kept exchange => keptAfter kept ⟨now, exchange⟩) kept

variable {s : VaultSettings} {kept kept' : Option VaultToken} {tenant bearer : String}
  {now : Instant} {traffic : Traffic} {history : List Event} {e : Event} {request : HttpRequest}

/-- What is remembered after an event is what is kept after it. -/
theorem remembered_cons (readable : IsReadable (e :: history)) :
  remembered (e :: history) = keptAfter (remembered history) e
  := by
  rw [keptAfter]
  split
  · rename_i time lease login
    obtain ⟨expiry, expires⟩ :=
      Option.isSome_iff_exists.mp (readable e List.mem_cons_self time lease login)
    rw [expires, VaultLease.expiry?_eq expires]
    simp [remembered, isForbiddenSince, lastLogin?, login]
  · rename_i none
    simp only [remembered, isForbiddenSince, lastLogin?, none, List.takeWhile_cons,
      List.findSome?_cons, Option.isNone_none, if_true, List.any_cons]
    cases e.isForbiddenRead <;> simp

theorem remembered_append (readable : IsReadable (events now traffic ++ history)) :
  remembered (events now traffic ++ history) = keptThrough (remembered history) now traffic
  := by
  induction traffic generalizing history with
  | nil => rfl
  | cons exchange traffic ih =>
    have last : events now (exchange :: traffic) ++ history =
        events now traffic ++ (⟨now, exchange⟩ :: history) := by
      simp [events]
    rw [last] at readable ⊢
    rw [ih readable, keptThrough, keptThrough, List.foldl_cons, remembered_cons]
    exact fun e found => readable e (List.mem_append_right _ found)

/-! ## Calls -/

theorem method_of_loginRequest? (sent : loginRequest? s = some request) :
  request.method = .post
  := by
  obtain ⟨url, -, -, rfl⟩ := HttpRequest.build?_eq_some.mp sent
  rfl

theorem method_of_readRequest? (sent : readRequest? s bearer tenant = some request) :
  request.method = .get
  := by
  obtain ⟨url, -, -, rfl⟩ := HttpRequest.build?_eq_some.mp sent
  rfl

/-- A read carries the token that it is sent with. -/
theorem lookup_of_readRequest? (sent : readRequest? s bearer tenant = some request) :
  request.headers.lookup "x-vault-token" = some bearer
  := by
  obtain ⟨url, -, -, rfl⟩ := HttpRequest.build?_eq_some.mp sent
  dsimp only
  rw [headers]
  split <;> rfl

theorem login?_of_granted (sent : loginRequest? s = some request) {r : Response}
    {lease : VaultLease} (grants : r.lease? = some lease) :
  Event.login? ⟨now, ⟨request, .ok r⟩⟩ = some (now, lease)
  := by
  rw [Event.login?, method_of_loginRequest? sent]
  simp only [grants, Option.map_some]

theorem login?_of_refused (sent : loginRequest? s = some request)
    {answer : Except String Response} (refused : ∀ r, answer = .ok r → r.lease? = none) :
  Event.login? ⟨now, ⟨request, answer⟩⟩ = none
  := by
  rw [Event.login?, method_of_loginRequest? sent]
  cases answer with
  | error detail => rfl
  | ok r => simp only [refused r rfl, Option.map_none]

theorem isForbiddenRead_of_sent (sent : loginRequest? s = some request)
    (answer : Except String Response) :
  Event.isForbiddenRead ⟨now, ⟨request, answer⟩⟩ = false
  := by
  rw [Event.isForbiddenRead, method_of_loginRequest? sent]
  rfl

/-- A read is no login. -/
theorem login?_of_read (sent : readRequest? s bearer tenant = some request)
    (answer : Except String Response) :
  Event.login? ⟨now, ⟨request, answer⟩⟩ = none
  := by
  rw [Event.login?, method_of_readRequest? sent]

/-- What is kept with a token that is obtained follows from what was asked and answered. -/
theorem Obtains.kept_eq {result : Except AccessFailure String}
    (h : Obtains s kept now traffic (some (result, kept'))) :
  kept' = keptThrough kept now traffic
  := by
  cases h with
  | reused | unsent => rfl
  | refused useless sent refused cause =>
    rw [keptThrough, List.foldl_cons, List.foldl_nil, keptAfter, login?_of_refused sent refused]
    dsimp only
    rw [isForbiddenRead_of_sent sent]
    rfl
  | granted useless sent grants expires =>
    rw [keptThrough, List.foldl_cons, List.foldl_nil, keptAfter, login?_of_granted sent grants]
    simp only [expires]

theorem Reads.kept_eq {result : Except AccessFailure Secret}
    (h : Reads s kept tenant bearer traffic (some (result, kept'))) (now : Instant) :
  kept' = keptThrough kept now traffic
  := by
  cases h with
  | unsent => rfl
  | answered sent answer result =>
    rw [keptThrough, List.foldl_cons, List.foldl_nil, keptAfter, login?_of_read sent]
    simp [Event.isForbiddenRead, method_of_readRequest? sent]

/-- The token that a call leaves follows from what was asked and answered in it. -/
theorem kept_of_takes {result : Except AccessFailure Secret}
    (h : (secret s kept tenant now).Takes traffic (some (result, kept'))) :
  kept' = keptThrough kept now traffic
  := by
  cases accepted : isTenant tenant with
  | false =>
    rw [secret_of_refused accepted] at h
    obtain ⟨rfl, ⟨⟩⟩ := takes_done.mp h
    rfl
  | true =>
    obtain ⟨-, ⟨⟩⟩ | ⟨cause, _, obtains, ⟨⟩⟩ |
      ⟨bearer, held, first, second, rfl, obtains, reads⟩ := takes_secret accepted h
    · exact obtains.kept_eq
    · rw [reads.kept_eq now, obtains.kept_eq, keptThrough, keptThrough, keptThrough,
        List.foldl_append]

/-- Calls for the secrets of any tenants, one after the other, with the history of them, the last
event first, and the token that is kept after them.  A call may be given up at any point. -/
inductive Calls (s : VaultSettings) : List Event → Option VaultToken → Prop
  | started : Calls s [] none
  | called {history : List Event} {kept kept' : Option VaultToken} {tenant : String}
      {now : Instant} {traffic : Traffic} {result : Except AccessFailure Secret}
      (calls : Calls s history kept)
      (takes : (secret s kept tenant now).Takes traffic (some (result, kept'))) :
      Calls s (events now traffic ++ history) kept'
  | givenUp {history : List Event} {kept : Option VaultToken} {tenant : String} {now : Instant}
      {traffic : Traffic} (calls : Calls s history kept)
      (takes : (secret s kept tenant now).Takes traffic none) :
      Calls s (events now traffic ++ history) (keptThrough kept now traffic)

/-- What is kept after calls is what their history tells to remember. -/
theorem Calls.kept_eq (calls : Calls s history kept) (readable : IsReadable history) :
  kept = remembered history
  := by
  induction calls with
  | started => rfl
  | called calls takes ih =>
    rw [remembered_append readable, ← ih fun e found => readable e (List.mem_append_right _ found)]
    exact kept_of_takes takes
  | givenUp calls takes ih =>
    rw [remembered_append readable, ← ih fun e found => readable e (List.mem_append_right _ found)]

/-- A token that is kept can be used until it expires. -/
theorem usable?_eq_none :
  usable? kept now = none ↔ ∀ token, kept = some token → token.expiry ≤ now
  := by
  rw [usable?]
  cases kept with
  | none => simp
  | some token =>
    rw [Option.filter_some]
    constructor
    · rintro none _ ⟨⟩
      intro before
      rw [if_pos (decide_eq_true before)] at none
      cases none
    · intro expired
      rw [if_neg]
      exact fun before => expired token rfl (of_decide_eq_true before)

theorem usable?_eq_some {token : VaultToken} (h : usable? kept now = some token) :
  kept = some token
  := (Option.filter_eq_some_iff.mp h).1

/-- What is remembered cannot be used if there is nothing to remember, or if it expired. -/
theorem usable?_remembered :
  usable? (remembered history) now = none ↔
    lastLogin? history = none ∨ isForbiddenSince history = true ∨
      ∃ time lease, lastLogin? history = some (time, lease) ∧ time.shift lease.use ≤ now
  := by
  rw [usable?_eq_none, remembered]
  cases isForbiddenSince history with
  | true => simp
  | false =>
    rcases lastLogin? history with _ | ⟨time, lease⟩
    · simp
    · constructor
      · exact fun expired => .inr (.inr ⟨time, lease, rfl, expired _ rfl⟩)
      · rintro (⟨⟨⟩⟩ | ⟨⟨⟩⟩ | ⟨_, _, ⟨⟩, expired⟩) _ ⟨⟩
        exact expired

theorem loginRequest?_isSome (sendable : s.IsSendable) :
  ∃ request, loginRequest? s = some request
  := by
  obtain ⟨url, denoted⟩ := Option.isSome_iff_exists.mp sendable.address
  refine ⟨_, HttpRequest.build?_eq_some.mpr ⟨url, denoted, ?_, rfl⟩⟩
  intro header found
  rw [headers] at found
  split at found
  · rw [List.mem_singleton.mp found]
    rfl
  · obtain _ | ⟨_, _ | ⟨_, ⟨⟩⟩⟩ := found
    · exact sendable.header
    · rfl

/-- A call that sends a login finds no token that can be used. -/
theorem useless_of_posts (post : request.method = .post)
    (poses : (secret s kept tenant now).Poses traffic request) :
  usable? kept now = none
  := by
  cases accepted : isTenant tenant with
  | false => cases not_poses_secret accepted poses
  | true =>
    obtain ⟨useless, -⟩ | ⟨bearer, _, _, _, -, -, sent⟩ := (poses_secret accepted).mp poses
    · exact useless
    · cases post.symm.trans (method_of_readRequest? sent)

/-- A call sends a login if no token that is kept can be used. -/
theorem posts_iff (sendable : s.IsSendable) (accepted : isTenant tenant = true) :
  (∃ request, request.method = .post ∧ (secret s kept tenant now).Poses traffic request) ↔
    usable? kept now = none
  := by
  constructor
  · rintro ⟨request, post, poses⟩
    apply useless_of_posts post poses
  · intro useless
    obtain ⟨request, sent⟩ := loginRequest?_isSome sendable
    refine ⟨request, method_of_loginRequest? sent, ?_⟩
    exact (poses_secret accepted).mpr (.inl ⟨useless, sent⟩)

/-- Before a call sends a read, it obtains the token that the read carries. -/
theorem obtains_of_poses_get {result? : Option (Except AccessFailure Secret × Option VaultToken)}
    (takes : (secret s kept tenant now).Takes traffic result?) (get : request.method = .get)
    (poses : (secret s kept tenant now).Poses traffic request) :
  ∃ bearer kept' first second, traffic = first ++ second ∧
    Obtains s kept now first (some (.ok bearer, kept')) ∧
      Reads s kept' tenant bearer second result? ∧
        request.headers.lookup "x-vault-token" = some bearer
  := by
  cases accepted : isTenant tenant with
  | false => cases not_poses_secret accepted poses
  | true =>
    obtain ⟨-, login⟩ | ⟨bearer, kept', first, second, rfl, obtains, sent⟩ :=
      (poses_secret accepted).mp poses
    · cases get.symm.trans (method_of_loginRequest? login)
    · rw [secret_of_isTenant accepted] at takes
      exact ⟨bearer, kept', first, second, rfl, takes_token obtains,
        takes_read (takes.rest obtains), lookup_of_readRequest? sent⟩

/-- A read does not change which login is the last one. -/
theorem Reads.lastLogin?_eq {result? : Option (Except AccessFailure Secret × Option VaultToken)}
    (h : Reads s kept tenant bearer traffic result?) (now : Instant) (history : List Event) :
  lastLogin? (events now traffic ++ history) = lastLogin? history
  := by
  cases h with
  | unsent | unanswered => rfl
  | answered sent answer result =>
    rw [events, List.map_singleton, List.reverse_singleton, List.singleton_append, lastLogin?,
      List.findSome?_cons, login?_of_read sent]
    rfl

/-- The token that is obtained is that of the last login. -/
theorem Obtains.lastLogin?_eq
    (h : Obtains s (remembered history) now traffic (some (.ok bearer, kept'))) :
  ∃ time lease, lastLogin? (events now traffic ++ history) = some (time, lease) ∧
    lease.token = bearer
  := by
  cases h with
  | reused usable =>
    have held := usable?_eq_some usable
    rw [remembered] at held
    split at held
    · cases held
    · obtain ⟨⟨time, lease⟩, last, rfl⟩ := Option.map_eq_some_iff.mp held
      exact ⟨time, lease, last, rfl⟩
  | granted useless sent grants expires =>
    refine ⟨now, _, ?_, rfl⟩
    rw [events, List.map_singleton, List.reverse_singleton, List.singleton_append, lastLogin?,
      List.findSome?_cons, login?_of_granted sent grants]

/-- A token that is obtained although none could be used comes from a login. -/
theorem Obtains.exists_login (h : Obtains s kept now traffic (some (.ok bearer, kept')))
    (useless : usable? kept now = none) :
  ∃ e ∈ events now traffic, e.login? ≠ none
  := by
  cases h with
  | reused usable => cases useless.symm.trans usable
  | granted useless sent grants expires =>
    refine ⟨_, List.mem_singleton_self _, ?_⟩
    rw [login?_of_granted sent grants]
    exact nofun

/-- Only logins that succeed and reads that are forbidden change the token that is kept. -/
theorem keptThrough_eq (logins : ∀ e ∈ events now traffic, e.login? = none)
    (reads : ∀ exchange ∈ traffic, exchange.question.method ≠ .get) :
  keptThrough kept now traffic = kept
  := by
  induction traffic with
  | nil => rfl
  | cons exchange traffic ih =>
    have others : events now (exchange :: traffic) = events now traffic ++ [⟨now, exchange⟩] := by
      simp [events]
    rw [others] at logins
    have stays : keptAfter kept ⟨now, exchange⟩ = kept := by
      rw [keptAfter, logins _ (List.mem_append_right _ List.mem_cons_self)]
      simp [Event.isForbiddenRead, reads exchange List.mem_cons_self]
    rw [keptThrough, List.foldl_cons, stays]
    exact ih (fun e found => logins e (List.mem_append_left _ found))
      fun exchange found => reads exchange (List.mem_cons_of_mem _ found)

/-- A call whose login does not succeed sends no read, and leaves the token that is kept. -/
theorem harmless_of_fails {result? : Option (Except AccessFailure Secret × Option VaultToken)}
    (takes : (secret s kept tenant now).Takes traffic result?)
    (posts : ∃ request, request.method = .post ∧
      (secret s kept tenant now).Poses traffic request)
    (fails : ∀ e ∈ events now traffic, e.login? = none) :
  (∀ request, (secret s kept tenant now).Poses traffic request → request.method ≠ .get) ∧
    keptThrough kept now traffic = kept
  := by
  have unread : ∀ request, (secret s kept tenant now).Poses traffic request →
      request.method ≠ .get := by
    intro request poses get
    obtain ⟨bearer, kept', first, second, rfl, obtains, -⟩ := obtains_of_poses_get takes get poses
    obtain ⟨login, post, poses⟩ := posts
    obtain ⟨e, found, login⟩ := obtains.exists_login (useless_of_posts post poses)
    apply login (fails e _)
    rw [events, List.map_append, List.reverse_append]
    exact List.mem_append_right _ found
  exact ⟨unread, keptThrough_eq fails fun exchange found => unread _ (takes.poses found)⟩

/-- In calls for the secrets of any tenants, one after the other, with any answers:

* a call for a tenant that has a secret sends a login just where no login has succeeded yet, where a
  read was forbidden since the last one, or where the span for which its token is used has passed;
* every read carries the token of the last login that succeeded;
* a call whose login does not succeed sends no read, and leaves the token that is kept.

The calendar holds the times when the tokens expire, and the settings can be sent. -/
theorem Calls.logs_in_when_due (calls : Calls s history kept) (readable : IsReadable history)
    (sendable : s.IsSendable)
    {result? : Option (Except AccessFailure Secret × Option VaultToken)}
    (takes : (secret s kept tenant now).Takes traffic result?) :
  (isTenant tenant = true →
    ((∃ request, request.method = .post ∧ (secret s kept tenant now).Poses traffic request) ↔
      lastLogin? history = none ∨ isForbiddenSince history = true ∨
        ∃ time lease, lastLogin? history = some (time, lease) ∧ time.shift lease.use ≤ now)) ∧
  (∀ request, request.method = .get → (secret s kept tenant now).Poses traffic request →
    ∃ time lease, lastLogin? (events now traffic ++ history) = some (time, lease) ∧
      request.headers.lookup "x-vault-token" = some lease.token) ∧
  ((∃ request, request.method = .post ∧ (secret s kept tenant now).Poses traffic request) →
    (∀ e ∈ events now traffic, e.login? = none) →
      (∀ request, (secret s kept tenant now).Poses traffic request → request.method ≠ .get) ∧
        keptThrough kept now traffic = kept ∧
          ∀ result kept', result? = some (result, kept') → kept' = kept)
  := by
  obtain rfl := calls.kept_eq readable
  refine ⟨?_, ?_, ?_⟩
  · intro accepted
    rw [posts_iff sendable accepted, usable?_remembered]
  · intro request get poses
    obtain ⟨bearer, kept', first, second, rfl, obtains, reads, carries⟩ :=
      obtains_of_poses_get takes get poses
    obtain ⟨time, lease, last, rfl⟩ := obtains.lastLogin?_eq
    refine ⟨time, lease, ?_, carries⟩
    rw [← last, ← reads.lastLogin?_eq now (events now first ++ history), events, events, events,
      List.map_append, List.reverse_append, List.append_assoc]
  · intro posts fails
    obtain ⟨unread, stays⟩ := harmless_of_fails takes posts fails
    refine ⟨unread, stays, ?_⟩
    rintro result kept' rfl
    exact (kept_of_takes takes).trans stays

namespace Shop

/-- The store grants every login a lease of an hour, and holds the same secret for every tenant. -/
def answer (request : HttpRequest) : StateM Unit (Except String Response) :=
  return .ok ⟨200,
    if request.method = .post then
      "\x7b\"auth\":\x7b\"client_token\":\"s.1\",\"lease_duration\":3600\x7d\x7d"
    else "\x7b\"data\":\x7b\"data\":\x7b\"client-id\":\"a\",\"client-secret\":\"b\"\x7d\x7d\x7d"⟩

/-- What is asked and answered in a first call. -/
def firstCall : Traffic :=
  (secret settings none "ARU-1" ⟨0, 0⟩).courseIn answer ()

/-- The token after the first call, which is used for nine tenths of the hour. -/
def firstToken : VaultToken :=
  ⟨"s.1", ⟨3240, 0⟩⟩

theorem calls :
  Calls settings (events ⟨0, 0⟩ firstCall ++ []) (some firstToken)
  := by
  have keeps : ((secret settings none "ARU-1" ⟨0, 0⟩).run answer ()).1.map (·.2) =
      some (some firstToken) := by
    decide +kernel
  obtain ⟨⟨result, _⟩, ran, rfl⟩ := Option.map_eq_some_iff.mp keeps
  have takes := takes_courseIn answer (secret settings none "ARU-1" ⟨0, 0⟩) ()
  rw [ran] at takes
  exact Calls.started.called takes

theorem lastLogin?_eq :
  lastLogin? (events ⟨0, 0⟩ firstCall ++ []) = some (⟨0, 0⟩, ⟨"s.1", 3600⟩)
  := by
  decide +kernel

theorem isReadable :
  IsReadable (events ⟨0, 0⟩ firstCall ++ [])
  := by
  have readable : (events ⟨0, 0⟩ firstCall ++ []).all (fun e =>
      e.login?.all fun (time, lease) => (VaultLease.expiry? lease time).isSome) = true := by
    decide +kernel
  intro e found time lease login
  have grants := List.all_eq_true.mp readable e found
  rwa [login] at grants

theorem isSendable :
  settings.IsSendable
  := ⟨by decide +kernel, rfl⟩

end Shop

/-- A second call logs in when nine tenths of the hour have passed, and not before. -/
theorem Calls.logs_in_when_due_shop :
  Calls Shop.settings (events ⟨0, 0⟩ Shop.firstCall ++ []) (some Shop.firstToken) ∧
  (∃ request, request.method = .post ∧
    (secret Shop.settings (some Shop.firstToken) "ARU-2" ⟨3240, 0⟩).Poses [] request) ∧
  ¬ ∃ request, request.method = .post ∧
    (secret Shop.settings (some Shop.firstToken) "ARU-2" ⟨3239, 999_999_999⟩).Poses [] request
  := by
  have due (now : Instant)
      (waits : (secret Shop.settings (some Shop.firstToken) "ARU-2" now).Takes [] none) :=
    (logs_in_when_due Shop.calls Shop.isReadable Shop.isSendable waits).1 (by decide)
  refine ⟨Shop.calls, (due ⟨3240, 0⟩ (.givenUp _ _)).mpr ?_, fun posts => ?_⟩
  · exact .inr (.inr ⟨_, _, Shop.lastLogin?_eq, by decide +kernel⟩)
  · obtain none | forbidden | ⟨time, lease, last, expired⟩ :=
        (due ⟨3239, 999_999_999⟩ (.givenUp _ _)).mp posts
    · rw [Shop.lastLogin?_eq] at none
      cases none
    · revert forbidden
      decide +kernel
    · rw [Shop.lastLogin?_eq] at last
      cases last
      revert expired
      decide +kernel

end Vault

end CloudOperator
