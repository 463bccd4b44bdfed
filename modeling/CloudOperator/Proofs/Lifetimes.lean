import CloudOperator.Proofs.Elapsed
import CloudOperator.Proofs.Leases
import CloudOperator.Proofs.Logins
import CloudOperator.Proofs.Timestamp

/-!
# Lifetimes that lead out of the calendar

The lifetime of a token is taken from the answer of the identity provider as it is, and the lease of
a token for the secret store from the answer of the store.  The time at which a token expires may
thereby lie outside of the calendar (`CachedToken.expiry?_eq_none`, `VaultLease.expiry?_eq_none`).

A token with such a lifetime is received without harm, and it is the later calls that look at it
that have no result (`TokenCache.leaves_authenticate`, `Login.leaves_resume`).  A lease of this kind
keeps the call from a result that receives it, and no other call (`Vault.leaves_secret`).
`LoginRun.leaves_calendar_iff` says both of any logins, side by side.
-/

namespace CloudOperator

open Program
open Instant (firstSecond lastSecond)

variable {now : Instant}

/-! ## Times at which tokens expire -/

namespace CachedToken

/-- The end of the lifetime of a token. -/
def lifetimeEnd (t : CachedToken) : Instant :=
  t.received.shift (t.token.expiresIn.toInt * nanosPerSecond)

/-- The calendar does not hold the end of the lifetime, or not the time before it from which on the
token is not used any more. -/
def IsUndated (t : CachedToken) : Prop :=
  t.lifetimeEnd.second < firstSecond + safetyMargin ∨ lastSecond < t.lifetimeEnd.second

theorem lifetimeEnd_spec {t : CachedToken} (nano : t.received.nano < 2_000_000_000) :
  t.lifetimeEnd.nano < 2_000_000_000 ∧
    t.received.second + t.token.expiresIn.toInt ≤ t.lifetimeEnd.second ∧
    t.lifetimeEnd.second ≤ t.received.second + t.token.expiresIn.toInt + 1 ∧
    (t.lifetimeEnd.inLeapSecond → t.lifetimeEnd.second = t.received.second)
  := by
  rw [lifetimeEnd, t.received.shift_seconds _ nano]
  by_cases leaves : t.received.inLeapSecond ∧ t.token.expiresIn.toInt ≠ 0
  · rw [if_pos leaves]
    simp only [Instant.inLeapSecond]
    omega
  · rw [if_neg leaves]
    simp only [Instant.inLeapSecond] at leaves ⊢
    omega

/-- The time from which on a token is not used any more, with the seconds of its lifetime and of the
margin at the end of it added one after the other. -/
theorem expiry?_eq (t : CachedToken) :
  t.expiry? =
    if -longestSpan ≤ t.token.expiresIn.toInt * nanosPerSecond ∧
        t.token.expiresIn.toInt * nanosPerSecond ≤ longestSpan ∧
        t.lifetimeEnd.IsInCalendar ∧
        (t.lifetimeEnd.shift (-safetyMargin * nanosPerSecond)).IsInCalendar then
      some (t.lifetimeEnd.shift (-safetyMargin * nanosPerSecond))
    else none
  := by
  rw [expiry?, spanOfSeconds?, Int.neg_mul]
  split
  · rename_i fits
    simp only [fits, Instant.add?, true_and, Option.bind_eq_bind, Option.bind_some]
    change Option.bind (if t.lifetimeEnd.IsInCalendar then some t.lifetimeEnd else none) _ = _
    split
    · rename_i inside
      simp [inside]
    · rename_i outside
      simp [outside]
  · rename_i long
    rw [if_neg fun fits => long ⟨fits.1, fits.2.1⟩]
    rfl

/-- A token expires at a time in the calendar unless its lifetime leads out of it. -/
theorem expiry?_eq_none {t : CachedToken} (reading : t.received.IsReading) :
  t.expiry? = none ↔ t.IsUndated
  := by
  obtain ⟨first, last⟩ := reading.second
  obtain ⟨inside, least, most, stays⟩ := lifetimeEnd_spec reading.nano
  have before := t.lifetimeEnd.shift_seconds (-safetyMargin) inside
  rw [expiry?_eq, before, IsUndated]
  simp only [Instant.IsInCalendar, ite_eq_right_iff, reduceCtorEq, imp_false, longestSpan,
    nanosPerSecond, nanosPerMilli, safetyMargin, firstSecond, lastSecond]
  split
  · rename_i leaves
    have same := stays leaves.1
    dsimp only
    omega
  · dsimp only
    omega

end CachedToken

/-- The calendar does not hold the end of the span for which the token of a login at the time `now`
is used. -/
def VaultLease.IsUndated (l : VaultLease) (now : Instant) : Prop :=
  lastSecond < (now.shift l.use).second

/-- Only a lease that is longer than all spans is not used for a span. -/
theorem VaultLease.longestSpan_lt_of_span? {l : VaultLease} (h : l.span? = none) :
  longestSpan < l.seconds.toInt * nanosPerSecond
  := by
  rw [span?] at h
  split at h
  · rw [Option.map_eq_none_iff, spanOfSeconds?, ite_eq_right_iff] at h
    simp only [reduceCtorEq, imp_false, longestSpan, nanosPerMilli, nanosPerSecond] at h ⊢
    omega
  · cases h

/-- The token of a login expires at a time in the calendar unless its lease leads out of it. -/
theorem VaultLease.expiry?_eq_none {l : VaultLease} (reading : now.IsReading) :
  l.expiry? now = none ↔ l.IsUndated now
  := by
  obtain ⟨first, last⟩ := reading.second
  have forwards : 0 ≤ l.use := by
    rw [use]
    omega
  have least := now.le_second_shift forwards
  have most := now.second_shift forwards reading.nano
  rw [expiry?, IsUndated]
  rcases spans : l.span? with _ | span
  · have long : longestSpan < l.seconds.toInt * nanosPerSecond := longestSpan_lt_of_span? spans
    simp only [longestSpan, nanosPerMilli, nanosPerSecond] at long
    have used : l.use = l.seconds.toInt * 900_000_000 := if_pos (by omega)
    refine iff_of_true rfl ?_
    rw [lastSecond]
    omega
  · obtain rfl := span?_eq spans
    rw [Option.bind_some, Instant.add?, ite_eq_right_iff, Instant.IsInCalendar]
    simp only [reduceCtorEq, imp_false, firstSecond, lastSecond]
    omega

/-! ## Calls that look for a token -/

namespace TokenCache

variable {cache : TokenCache} {tenant realm : String} {course : Course}

theorem active?_eq_none_iff :
  cache.active? tenant now = none ↔
    ∃ cached, Table.find? cache tenant = some cached ∧ cached.expiry? = none
  := by
  rcases found : Table.find? cache tenant with _ | cached
  · simp [active?, found]
  · simp [active?, found, CachedToken.isExpired?]

theorem leaves_hit? :
  (cache.hit? tenant now).Leaves course ↔ course = [] ∧ cache.active? tenant now = none
  := by
  rcases active : cache.active? tenant now with _ | token?
  · rw [hit?, active, and_iff_left rfl]
    apply leaves_overflow
  · have stays : (cache.hit? tenant now).Stays := by
      rw [hit?, active]
      cases token? with
      | none => trivial
      | some token => exact fun _ => trivial
    exact iff_of_false stays.not_leaves fun unknown => Option.some_ne_none _ unknown.2

theorem stays_credentials :
  (credentials tenant).Stays
  := by
  rintro (cause | secret)
  · trivial
  · trivial

theorem stays_exchange {credentials : Credentials} :
  (cache.exchange tenant credentials realm now).Stays
  := by
  rintro (cause | token)
  · exact fun _ => trivial
  · exact fun _ => trivial

/-- An authentication has no result if it is not known when the cached token of the tenant expires,
and it ends so before it asks for anything. -/
theorem leaves_authenticate :
  (cache.authenticate tenant realm now).Leaves course ↔
    course = [] ∧ cache.active? tenant now = none
  := by
  refine leaves_bind.trans ((or_iff_left ?_).trans leaves_hit?)
  rintro ⟨_ | token, first, second, -, -, leaves⟩
  · refine Stays.not_leaves (stays_credentials.bind ?_) leaves
    rintro (cause | credentials)
    · trivial
    · exact stays_exchange
  · cases leaves

end TokenCache

namespace Login

variable {l : Login} {hall : LoginHall} {realm : String} {course : Course}

/-- The login is about to look for a cached token. -/
def Looks (l : Login) (hall : LoginHall) : Prop :=
  l.source.usesCache ∧ (l.stage = .start ∨ l.stage = .queued ∧ hall.isTurnOf l)

theorem hit?_of_unknown (unknown : hall.tokens.active? l.tenant now = none) :
  l.hit? hall now = if l.source.usesCache then .overflow else .done none
  := by
  rw [hit?, TokenCache.hit?, unknown]
  rfl

theorem leaves_takeTurn (unknown : hall.tokens.active? l.tenant now = none) :
  (l.takeTurn hall now).Leaves course ↔ course = [] ∧ l.source.usesCache ∧ hall.isTurnOf l
  := by
  rw [takeTurn]
  split
  · exact iff_of_false not_leaves_done fun looks => ‹¬ _› looks.2.2
  · rw [hit?_of_unknown unknown]
    cases uses : l.source.usesCache with
    | false =>
      refine iff_of_false ?_ fun looks => Bool.false_ne_true looks.2.1
      cases l.source <;> exact not_leaves_done
    | true =>
      have turn : hall.isTurnOf l := Classical.not_not.mp ‹_›
      rw [and_iff_left ⟨rfl, turn⟩]
      exact leaves_overflow

/-- A login has no result if it looks for a cached token and it is not known when that expires. -/
theorem leaves_resume :
  (l.resume hall realm now).Leaves course ↔
    course = [] ∧ l.Looks hall ∧ hall.tokens.active? l.tenant now = none
  := by
  by_cases unknown : hall.tokens.active? l.tenant now = none
  · rw [and_iff_left unknown, resume, Looks]
    cases stage : l.stage with
    | start =>
      dsimp only
      rw [hit?_of_unknown unknown]
      cases uses : l.source.usesCache with
      | false =>
        refine iff_of_false ?_ fun looks => Bool.false_ne_true looks.2.1
        intro leaves
        have joined : (hall.join l).tokens.active? l.tenant now = none := unknown
        obtain ⟨-, looks, -⟩ := (leaves_takeTurn joined).mp leaves
        rw [uses] at looks
        cases looks
      | true =>
        rw [and_iff_left ⟨rfl, .inl rfl⟩]
        exact leaves_overflow
    | queued =>
      dsimp only
      rw [leaves_takeTurn unknown]
      simp
    | reading =>
      refine iff_of_false (Stays.not_leaves (TokenCache.stays_credentials.bind ?_)) (by simp)
      rintro (cause | credentials)
      · trivial
      · trivial
    | exchanging credentials =>
      refine iff_of_false (Stays.not_leaves (TokenCache.stays_exchange.bind ?_)) (by simp)
      exact fun _ => trivial
    | finished result => exact iff_of_false not_leaves_done (by simp)
  · exact iff_of_false (stays_resume unknown).not_leaves fun looks => unknown looks.2.2

end Login

namespace Vault

variable {s : VaultSettings} {kept : Option VaultToken} {tenant : String} {traffic : Traffic}

theorem not_leaves_send {method : Method} {address : String} {headers : List (String × String)}
    {body : String} :
  ¬ (HttpRequest.send method address headers body).Leaves traffic
  := by
  rw [HttpRequest.send]
  split
  · rintro (_ | ⟨⟨⟩⟩)
  · exact not_leaves_done

theorem leaves_token :
  (token s kept now).Leaves traffic ↔
    usable? kept now = none ∧
      ∃ request r lease, loginRequest? s = some request ∧ traffic = [⟨request, .ok r⟩] ∧
        r.lease? = some lease ∧ lease.expiry? now = none
  := by
  rcases usable : usable? kept now with _ | held
  · rw [token, usable, and_iff_right rfl]
    refine (leaves_bind.trans (or_iff_right not_leaves_send)).trans ?_
    constructor
    · rintro ⟨answer, first, second, rfl, sends, leaves⟩
      cases answer with
      | error detail => cases leaves
      | ok r =>
        rcases grants : leaseOf s r with cause | lease
        · simp only [grants] at leaves
          cases leaves
        · simp only [grants] at leaves
          obtain leaves | ⟨expiry, _, _, -, -, leaves⟩ := leaves_bind.mp leaves
          · obtain ⟨rfl, undated⟩ := leaves_ofOption.mp leaves
            obtain ⟨-, -, ⟨⟩⟩ | ⟨request, sent, ⟨-, ⟨⟩⟩ | ⟨_, rfl, ⟨⟩⟩⟩ :=
              HttpRequest.takes_send.mp sends
            exact ⟨request, r, lease, sent, rfl, leaseOf_eq_ok.mp grants, undated⟩
          · cases leaves
    · rintro ⟨request, r, lease, sent, rfl, grants, undated⟩
      have sends := HttpRequest.takes_send.mpr (.inr ⟨request, sent, .inr ⟨.ok r, rfl, rfl⟩⟩)
      refine ⟨.ok r, [⟨request, .ok r⟩], [], rfl, sends, ?_⟩
      simp only [leaseOf_eq_ok.mpr grants]
      exact leaves_bind.mpr (.inl (leaves_ofOption.mpr ⟨rfl, undated⟩))
  · rw [token, usable]
    exact iff_of_false not_leaves_done fun grants => Option.some_ne_none _ grants.1

theorem not_leaves_reading {bearer : String} :
  ¬ (reading s tenant (.ok bearer, kept)).Leaves traffic
  := by
  intro leaves
  obtain leaves | ⟨detail | answer, first, second, -, -, leaves⟩ := leaves_bind.mp leaves
  · exact not_leaves_send leaves
  · cases leaves
  · cases leaves

/-- A call for a secret has no result if it is granted a lease of which it is not known when it
expires. -/
theorem leaves_secret :
  (secret s kept tenant now).Leaves traffic ↔
    isTenant tenant = true ∧ usable? kept now = none ∧
      ∃ request r lease, loginRequest? s = some request ∧ traffic = [⟨request, .ok r⟩] ∧
        r.lease? = some lease ∧ lease.expiry? now = none
  := by
  cases accepted : isTenant tenant with
  | false =>
    rw [secret_of_refused accepted]
    exact iff_of_false not_leaves_done fun grants => Bool.false_ne_true grants.1
  | true =>
    rw [secret_of_isTenant accepted, leaves_bind, and_iff_right rfl]
    refine (or_iff_left ?_).trans leaves_token
    rintro ⟨⟨cause | bearer, kept'⟩, first, second, -, -, leaves⟩
    · cases leaves
    · exact not_leaves_reading leaves

end Vault

namespace LoginRun

variable {realm : String} {logins : Table Nat Login} {hall : LoginHall}
  {received : List (String × CachedToken)}

/-- After logins in any order, the following has no result, and nothing else in an authentication:

* a look for a cached token, an authentication, or a login that is about to look for a cached token,
  if the last token that was received for the tenant has a lifetime that leads out of the calendar;
* a call for a secret that is granted a lease which leads out of the calendar.

So the call that receives such a token has a result, and all later ones for the tenant have none.
The times are those of the years 0 to 9999. -/
theorem leaves_calendar_iff (run : LoginRun realm [] logins hall received)
    (readings : ∀ tenant cached, Table.find? received tenant = some cached →
      cached.received.IsReading) :
  (∀ tenant now course,
    ((hall.tokens.hit? tenant now).Leaves course ↔
      course = [] ∧ ∃ cached, Table.find? received tenant = some cached ∧ cached.IsUndated) ∧
    ((hall.tokens.authenticate tenant realm now).Leaves course ↔
      course = [] ∧ ∃ cached, Table.find? received tenant = some cached ∧ cached.IsUndated)) ∧
  (∀ l now course,
    (Login.resume l hall realm now).Leaves course ↔
      course = [] ∧ l.Looks hall ∧
        ∃ cached, Table.find? received l.tenant = some cached ∧ cached.IsUndated) ∧
  (∀ s kept tenant now traffic, now.IsReading →
    ((Vault.secret s kept tenant now).Leaves traffic ↔
      Vault.isTenant tenant = true ∧ Vault.usable? kept now = none ∧
        ∃ request r lease, Vault.loginRequest? s = some request ∧ traffic = [⟨request, .ok r⟩] ∧
          r.lease? = some lease ∧ lease.IsUndated now))
  := by
  have unknown (tenant : String) (now : Instant) : hall.tokens.active? tenant now = none ↔
      ∃ cached, Table.find? received tenant = some cached ∧ cached.IsUndated := by
    rw [TokenCache.active?_eq_none_iff, run.find?_tokens]
    apply exists_congr
    intro cached
    apply and_congr_right
    intro last
    exact CachedToken.expiry?_eq_none (readings tenant cached last)
  refine ⟨fun tenant now course => ⟨?_, ?_⟩, fun l now course => ?_, ?_⟩
  · rw [TokenCache.leaves_hit?, unknown]
  · rw [TokenCache.leaves_authenticate, unknown]
  · rw [Login.leaves_resume, unknown]
  · intro s kept tenant now traffic reading
    simp only [Vault.leaves_secret, VaultLease.expiry?_eq_none reading]

namespace Odd

/-- A token with the longest lifetime that a provider can name. -/
def cached : CachedToken :=
  ⟨⟨"token", 9223372036854775807⟩, ⟨1, 0⟩⟩

/-- What is shared after the token was received. -/
def shared : LoginHall :=
  ⟨[("ARU-1", cached)], [("ARU-1", [])]⟩

/-- What is asked and answered from the read of the secret on. -/
def course : Course :=
  [⟨.readSecret "ARU-1", .ok [(Credentials.idKey, "client"), (Credentials.secretKey, "secret")]⟩,
    ⟨.logIn Rush.client "cloud", .ok cached.token⟩, ⟨.count (.tokenExchanges "success"), ()⟩]

theorem run :
  LoginRun "cloud" [] [(0, Rush.first.halt (.finished (.ok "token")))] shared [("ARU-1", cached)]
  := by
  have entered : LoginRun "cloud" [] [(0, Rush.first)] ⟨[], []⟩ [] :=
    opened.arrived (l := Rush.first) rfl rfl
  have begins : (Rush.first.resume ⟨[], []⟩ "cloud" ⟨0, 0⟩).Takes []
      (some (Rush.first.halt .reading, ⟨[], [("ARU-1", [0])]⟩)) := .done _
  have reads : ((Rush.first.halt .reading).resume ⟨[], [("ARU-1", [0])]⟩ "cloud" ⟨0, 0⟩).Takes
      (course.take 1) (some (Rush.first.halt (.exchanging Rush.client), ⟨[], [("ARU-1", [0])]⟩)) :=
    .answered (.done _)
  have exchanges : ((Rush.first.halt (.exchanging Rush.client)).resume ⟨[], [("ARU-1", [0])]⟩
      "cloud" ⟨1, 0⟩).Takes (course.drop 1)
      (some (Rush.first.halt (.finished (.ok "token")), shared)) :=
    .answered (.answered (.done _))
  exact ((entered.resumed (n := 0) rfl begins).resumed (n := 0) rfl reads).resumed (n := 0) rfl
    exchanges

/-- The answer of a store that grants the longest lease. -/
def grant : Response :=
  ⟨200, "\x7b\"auth\":\x7b\"client_token\":\"s.1\",\"lease_duration\":9223372036854775807\x7d\x7d"⟩

end Odd

/-- After one tenant received a token with the longest lifetime its authentications have no result
at any time, those of other tenants have one, and a call for a secret has none that is granted the
longest lease. -/
theorem leaves_calendar_iff_odd :
  LoginRun "cloud" [] [(0, Rush.first.halt (.finished (.ok "token")))] Odd.shared
    [("ARU-1", Odd.cached)] ∧
  (∀ now, (Odd.shared.tokens.authenticate "ARU-1" "cloud" now).Leaves []) ∧
  (∀ now course, ¬ (Odd.shared.tokens.authenticate "ARU-2" "cloud" now).Leaves course) ∧
  ∃ request, (Vault.secret Vault.Shop.settings none "ARU-1" ⟨0, 0⟩).Leaves
    [⟨request, .ok Odd.grant⟩]
  := by
  have readings : ∀ tenant cached, Table.find? [("ARU-1", Odd.cached)] tenant = some cached →
      cached.received.IsReading := by
    intro tenant cached found
    rw [Table.find?] at found
    split at found
    · cases found
      exact .ofSecond (by decide)
    · cases found
  obtain ⟨looks, -, secrets⟩ := leaves_calendar_iff Odd.run readings
  refine ⟨Odd.run, fun now => ?_, fun now course leaves => ?_, ?_⟩
  · exact (looks "ARU-1" now []).2.mpr ⟨rfl, Odd.cached, rfl, .inr (by decide +kernel)⟩
  · obtain ⟨-, cached, found, -⟩ := (looks "ARU-2" now course).2.mp leaves
    cases found
  · obtain ⟨request, sent⟩ := Vault.loginRequest?_isSome Vault.Shop.isSendable
    refine ⟨request, (secrets _ _ _ _ _ (.ofSecond (by decide))).mpr ⟨by decide, rfl, request,
      Odd.grant, ⟨"s.1", 9223372036854775807⟩, sent, rfl, by decide +kernel, ?_⟩⟩
    rw [VaultLease.IsUndated]
    decide +kernel

/-- An exchange returns the token that is received with the longest lifetime, and then neither a
look for a cached token nor an authentication has a result. -/
theorem longest_lifetime_leaves_calendar :
  (TokenCache.exchange [] "ARU-1" Rush.client "cloud" ⟨1, 0⟩).Takes (Odd.course.drop 1)
    (some (.ok "token", Odd.shared.tokens)) ∧
  (Odd.shared.tokens.hit? "ARU-1" ⟨1, 0⟩).Leaves [] ∧
  (Odd.shared.tokens.authenticate "ARU-1" "cloud" ⟨1, 0⟩).Leaves []
  := by
  have unknown : Odd.shared.tokens.active? "ARU-1" ⟨1, 0⟩ = none := by
    decide +kernel
  exact ⟨.answered (.answered (.done _)), TokenCache.leaves_hit?.mpr ⟨rfl, unknown⟩,
    TokenCache.leaves_authenticate.mpr ⟨rfl, unknown⟩⟩

end LoginRun

end CloudOperator
