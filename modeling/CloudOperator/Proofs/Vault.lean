import CloudOperator.Access.Vault
import CloudOperator.Proofs.Course

/-!
# Courses of reads of secrets

What a call for the secret of a tenant asks over the network and comes to, part by part: a single
request (`HttpRequest.takes_send`), the token for the store (`Vault.takes_token`) and the read of
the secret with it (`Vault.takes_read`).

`Vault.takes_secret` puts the parts together, and `Vault.poses_secret` tells what a call sends: a
login, and with the token that is kept or granted a read of the secret of the tenant.
-/

namespace CloudOperator

open Program

/-- What is asked over the network and answered, in order. -/
abbrev Traffic :=
  List (Exchange fun _ : HttpRequest => Except String Response)

variable {traffic : Traffic}

/-! ## Requests -/

namespace HttpRequest

variable {method : Method} {address : String} {headers : List (String × String)} {body : String}
  {request : HttpRequest}

theorem build?_eq_some :
  build? method address headers body = some request ↔
    ∃ url, Url.read address = some url ∧ (∀ header ∈ headers, isHeaderValue header.2 = true) ∧
      request = ⟨method, url, headers, body⟩
  := by
  simp only [build?, Option.bind_eq_bind, Option.bind_eq_some_iff]
  apply exists_congr
  intro url
  apply and_congr_right
  intro _
  split
  · rename_i sendable
    rw [Option.pure_def, Option.some_inj, eq_comm]
    exact (and_iff_right (List.all_eq_true.mp sendable)).symm
  · rename_i unsendable
    exact iff_of_false nofun fun sends => unsendable (List.all_eq_true.mpr sends.1)

/-- A request that can be built is sent, and the program comes to the answer. -/
theorem takes_send {result? : Option (Except String Response)} :
  (send method address headers body).Takes traffic result? ↔
    (build? method address headers body = none ∧ traffic = [] ∧
        result? = some (.error "the request cannot be built")) ∨
      ∃ request, build? method address headers body = some request ∧
        (traffic = [] ∧ result? = none ∨
          ∃ answer, traffic = [⟨request, answer⟩] ∧ result? = some answer)
  := by
  rcases built : build? method address headers body with _ | request
  · simp [send, built, pure]
  · rw [send, built]
    dsimp only
    rw [question, takes_ask]
    constructor
    · rintro (stops | ⟨answer, rest, rfl, ends⟩)
      · exact .inr ⟨request, rfl, .inl stops⟩
      · obtain ⟨rfl, rfl⟩ := takes_done.mp ends
        exact .inr ⟨request, rfl, .inr ⟨answer, rfl, rfl⟩⟩
    · rintro (⟨⟨⟩, -⟩ | ⟨_, ⟨⟩, stops | ⟨answer, rfl, rfl⟩⟩)
      · exact .inl stops
      · exact .inr ⟨answer, [], rfl, .done _⟩

theorem poses_send :
  (send method address headers body).Poses traffic request ↔
    build? method address headers body = some request
  := by
  rcases built : build? method address headers body with _ | request'
  · simp [send, built, pure]
  · rw [send, built, Option.some_inj, eq_comm]
    constructor
    · rintro (_ | ⟨⟨⟩⟩)
      rfl
    · rintro rfl
      apply Poses.now

end HttpRequest

/-! ## Leases -/

/-- The lease that an answer to a login grants. -/
def Response.lease? (r : Response) : Option VaultLease :=
  if r.isSuccess then (Json.read r.body).bind VaultLease.codec.decode else none

/-- The time from which on the token of a login at the time `now` is not used any more, if it is
in the calendar. -/
def VaultLease.expiry? (l : VaultLease) (now : Instant) : Option Instant :=
  l.span?.bind now.add?

namespace Vault

variable {s : VaultSettings} {kept : Option VaultToken} {tenant bearer : String} {now : Instant}

theorem leaseOf_eq_ok {r : Response} {lease : VaultLease} :
  leaseOf s r = .ok lease ↔ r.lease? = some lease
  := by
  by_cases succeeds : r.isSuccess = true
  · rw [leaseOf, Response.lease?, if_neg (not_not_intro succeeds), if_pos succeeds]
    split
    · rename_i granted
      rw [granted, Except.ok.injEq, Option.some_inj]
    · rename_i none
      rw [none]
      exact iff_of_false nofun nofun
  · rw [leaseOf, Response.lease?, if_pos succeeds, if_neg succeeds]
    exact iff_of_false nofun nofun

/-! ## Tokens for the store -/

/-- The login, if it can be sent. -/
def loginRequest? (s : VaultSettings) : Option HttpRequest :=
  HttpRequest.build? .post (address s ("auth/" ++ s.rolePath ++ "/login"))
    (headers s ++ [HttpRequest.jsonHeader]) (loginBody s).write

/-- The read of the secret of a tenant, if it can be sent. -/
def readRequest? (s : VaultSettings) (bearer tenant : String) : Option HttpRequest :=
  HttpRequest.build? .get (address s (s.kvMount ++ "/data/" ++ tenant))
    (headers s ++ [("x-vault-token", bearer)]) ""

/-- How a token for the store is obtained, by one rule for each point that it gets to. -/
inductive Obtains (s : VaultSettings) (kept : Option VaultToken) (now : Instant) :
    Traffic → Option (Except AccessFailure String × Option VaultToken) → Prop
  | reused {token : VaultToken} (usable : usable? kept now = some token) :
      Obtains s kept now [] (some (.ok token.value, kept))
  | unsent (useless : usable? kept now = none) (unsendable : loginRequest? s = none)
      (cause : AccessFailure) : Obtains s kept now [] (some (.error cause, kept))
  | unanswered {request : HttpRequest} (useless : usable? kept now = none)
      (sent : loginRequest? s = some request) : Obtains s kept now [] none
  | refused {request : HttpRequest} {answer : Except String Response}
      (useless : usable? kept now = none) (sent : loginRequest? s = some request)
      (refused : ∀ r, answer = .ok r → r.lease? = none) (cause : AccessFailure) :
      Obtains s kept now [⟨request, answer⟩] (some (.error cause, kept))
  | granted {request : HttpRequest} {r : Response} {lease : VaultLease} {expiry : Instant}
      (useless : usable? kept now = none) (sent : loginRequest? s = some request)
      (grants : r.lease? = some lease) (expires : lease.expiry? now = some expiry) :
      Obtains s kept now [⟨request, .ok r⟩]
        (some (.ok lease.token, some ⟨lease.token, expiry⟩))
  | endless {request : HttpRequest} {r : Response} {lease : VaultLease}
      (useless : usable? kept now = none) (sent : loginRequest? s = some request)
      (grants : r.lease? = some lease) (endless : lease.expiry? now = none) :
      Obtains s kept now [⟨request, .ok r⟩] none

theorem takes_token {result? : Option (Except AccessFailure String × Option VaultToken)}
    (h : (token s kept now).Takes traffic result?) :
  Obtains s kept now traffic result?
  := by
  rcases usable : usable? kept now with _ | token
  · rw [token, usable] at h
    obtain ⟨sends, rfl⟩ | ⟨answer, first, second, rfl, sends, goes⟩ := takes_bind.mp h
    · obtain ⟨-, -, ⟨⟩⟩ | ⟨request, sent, ⟨rfl, -⟩ | ⟨answer, -, ⟨⟩⟩⟩ :=
        HttpRequest.takes_send.mp sends
      exact .unanswered usable sent
    obtain ⟨unsendable, rfl, ⟨⟩⟩ | ⟨request, sent, ⟨-, ⟨⟩⟩ | ⟨_, rfl, ⟨⟩⟩⟩ :=
      HttpRequest.takes_send.mp sends
    · obtain ⟨rfl, rfl⟩ := takes_done.mp goes
      exact .unsent usable unsendable _
    cases answer with
    | error detail =>
      obtain ⟨rfl, rfl⟩ := takes_done.mp goes
      exact .refused usable sent (by rintro _ ⟨⟩) _
    | ok r =>
      rcases grants : leaseOf s r with cause | lease
      · simp only [grants] at goes
        obtain ⟨rfl, rfl⟩ := takes_done.mp goes
        refine .refused usable sent ?_ cause
        rintro _ ⟨⟩
        apply Option.eq_none_iff_forall_not_mem.mpr
        intro lease granted
        cases grants.symm.trans (leaseOf_eq_ok.mpr granted)
      · simp only [grants] at goes
        rw [leaseOf_eq_ok] at grants
        obtain ⟨ends, rfl⟩ | ⟨expiry, _, _, rfl, ends, returns⟩ := takes_bind.mp goes
        · obtain ⟨rfl, endless⟩ := takes_ofOption.mp ends
          exact .endless usable sent grants endless.symm
        · obtain ⟨rfl, expires⟩ := takes_ofOption.mp ends
          obtain ⟨rfl, rfl⟩ := takes_done.mp returns
          exact .granted usable sent grants expires.symm
  · rw [Vault.token, usable] at h
    obtain ⟨rfl, rfl⟩ := takes_done.mp h
    exact .reused usable

/-! ## Reads -/

/-- Whether an answer to a read means that the token is of no use any more. -/
def isForbidden : Except String Response → Bool
  | .ok r => r.status = 403
  | .error _ => false

/-- How a secret is read with a token, by one rule for each point that the read gets to. -/
inductive Reads (s : VaultSettings) (kept : Option VaultToken) (tenant bearer : String) :
    Traffic → Option (Except AccessFailure Secret × Option VaultToken) → Prop
  | unsent (unsendable : readRequest? s bearer tenant = none) (cause : AccessFailure) :
      Reads s kept tenant bearer [] (some (.error cause, kept))
  | unanswered {request : HttpRequest} (sent : readRequest? s bearer tenant = some request) :
      Reads s kept tenant bearer [] none
  | answered {request : HttpRequest} (sent : readRequest? s bearer tenant = some request)
      (answer : Except String Response) (result : Except AccessFailure Secret) :
      Reads s kept tenant bearer [⟨request, answer⟩]
        (some (result, if isForbidden answer then none else kept))

/-- What follows once a token for the store is obtained. -/
def reading (s : VaultSettings) (tenant : String) :
    Except AccessFailure String × Option VaultToken →
      Network (Except AccessFailure Secret × Option VaultToken)
  | (.error cause, kept) => .done (.error cause, kept)
  | (.ok bearer, kept) =>
    (read s bearer tenant).bind fun
      | .error detail => .done (.error (.http detail), kept)
      | .ok answer => .done (secretOf tenant answer, if answer.status = 403 then none else kept)

theorem takes_read {result? : Option (Except AccessFailure Secret × Option VaultToken)}
    (h : (reading s tenant (.ok bearer, kept)).Takes traffic result?) :
  Reads s kept tenant bearer traffic result?
  := by
  obtain ⟨sends, rfl⟩ | ⟨answer, first, second, rfl, sends, goes⟩ := takes_bind.mp h
  · obtain ⟨-, -, ⟨⟩⟩ | ⟨request, sent, ⟨rfl, -⟩ | ⟨answer, -, ⟨⟩⟩⟩ :=
      HttpRequest.takes_send.mp sends
    exact .unanswered sent
  obtain ⟨unsendable, rfl, ⟨⟩⟩ | ⟨request, sent, ⟨-, ⟨⟩⟩ | ⟨_, rfl, ⟨⟩⟩⟩ :=
    HttpRequest.takes_send.mp sends
  · obtain ⟨rfl, rfl⟩ := takes_done.mp goes
    exact .unsent unsendable _
  cases answer with
  | error detail =>
    obtain ⟨rfl, rfl⟩ := takes_done.mp goes
    exact .answered sent (.error detail) _
  | ok r =>
    obtain ⟨rfl, rfl⟩ := takes_done.mp goes
    have answered : Reads s kept tenant bearer [⟨request, .ok r⟩]
        (some (secretOf tenant r, if isForbidden (.ok r) then none else kept)) :=
      .answered sent (.ok r) (secretOf tenant r)
    simpa [isForbidden] using answered

/-! ## Calls -/

theorem secret_of_refused (refused : isTenant tenant = false) :
  secret s kept tenant now = .done (.error (.invalidTenant tenant), kept)
  := by
  rw [secret, refused]
  rfl

theorem secret_of_isTenant (accepted : isTenant tenant = true) :
  secret s kept tenant now = (token s kept now).bind (reading s tenant)
  := by
  rw [secret, if_neg (not_not_intro accepted)]
  refine bind_congr (m := Network) ?_
  rintro ⟨cause | bearer, kept⟩
  · rfl
  · refine bind_congr (m := Network) ?_
    rintro (detail | answer)
    · rfl
    · rfl

/-- A call for the secret of a tenant obtains a token for the store, and reads the secret with
it. -/
theorem takes_secret (accepted : isTenant tenant = true)
    {result? : Option (Except AccessFailure Secret × Option VaultToken)}
    (h : (secret s kept tenant now).Takes traffic result?) :
  Obtains s kept now traffic none ∧ result? = none ∨
    (∃ cause kept', Obtains s kept now traffic (some (.error cause, kept')) ∧
      result? = some (.error cause, kept')) ∨
    ∃ bearer kept' first second, traffic = first ++ second ∧
      Obtains s kept now first (some (.ok bearer, kept')) ∧
        Reads s kept' tenant bearer second result?
  := by
  rw [secret_of_isTenant accepted] at h
  obtain ⟨obtains, rfl⟩ | ⟨⟨cause | bearer, kept'⟩, first, second, rfl, obtains, goes⟩ :=
    takes_bind.mp h
  · exact .inl ⟨takes_token obtains, rfl⟩
  · obtain ⟨rfl, rfl⟩ := takes_done.mp goes
    rw [List.append_nil]
    exact .inr (.inl ⟨cause, kept', takes_token obtains, rfl⟩)
  · exact .inr (.inr ⟨bearer, kept', first, second, rfl, takes_token obtains, takes_read goes⟩)

variable {request : HttpRequest}

theorem not_poses_secret (refused : isTenant tenant = false) :
  ¬ (secret s kept tenant now).Poses traffic request
  := by
  rw [secret_of_refused refused]
  exact nofun

theorem poses_token :
  (token s kept now).Poses traffic request ↔
    usable? kept now = none ∧ loginRequest? s = some request
  := by
  rcases usable : usable? kept now with _ | held
  · rw [token, usable]
    refine (poses_bind.trans (or_iff_left ?_)).trans ?_
    · rintro ⟨answer, first, second, -, -, poses⟩
      cases answer with
      | error detail => cases poses
      | ok r =>
        rcases grants : leaseOf s r with cause | lease
        · simp only [grants] at poses
          cases poses
        · simp only [grants] at poses
          rcases expires : lease.span?.bind now.add? with _ | expiry
          · rw [expires] at poses
            cases poses
          · rw [expires] at poses
            cases poses
    · exact HttpRequest.poses_send.trans (and_iff_right rfl).symm
  · rw [token, usable]
    exact iff_of_false nofun nofun

theorem poses_reading :
  (reading s tenant (.ok bearer, kept)).Poses traffic request ↔
    readRequest? s bearer tenant = some request
  := by
  refine (poses_bind.trans (or_iff_left ?_)).trans HttpRequest.poses_send
  rintro ⟨detail | answer, first, second, -, -, poses⟩
  · cases poses
  · cases poses

/-- A call for the secret of a tenant sends a login if no token that is kept can be used, and a read
of this secret with the token that it obtains. -/
theorem poses_secret (accepted : isTenant tenant = true) :
  (secret s kept tenant now).Poses traffic request ↔
    (usable? kept now = none ∧ loginRequest? s = some request) ∨
      ∃ bearer kept' first second, traffic = first ++ second ∧
        (token s kept now).Takes first (some (.ok bearer, kept')) ∧
          readRequest? s bearer tenant = some request
  := by
  rw [secret_of_isTenant accepted, poses_bind, poses_token]
  apply or_congr_right
  constructor
  · rintro ⟨⟨cause | bearer, kept'⟩, first, second, same, obtains, poses⟩
    · cases poses
    · exact ⟨bearer, kept', first, second, same, obtains, poses_reading.mp poses⟩
  · rintro ⟨bearer, kept', first, second, same, obtains, sent⟩
    exact ⟨_, first, second, same, obtains, poses_reading.mpr sent⟩

end Vault

end CloudOperator
