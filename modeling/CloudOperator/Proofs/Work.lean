import CloudOperator.Proofs.Remote
import CloudOperator.Reconcile.Work

/-!
# Courses of the work of the phases

What the work of each phase may send, and what it leads to: a decision that depends on
the outcome of one exchange with the remote resource, and an object that differs from
the one in hand at most by what the exchange records.
-/

namespace CloudOperator

open Program

namespace Work

variable {K : Kind} {o o' : Object K} {actor : Actor} {course : Course} {decision : Decision}

/-- The work of the phase of creation sends nothing but the creation, at a collection of its kind.
-/
theorem asks_create (o : Object K) (actor : Actor) :
  (create o actor).Asks
    (Operation.SendsOnly fun r => r.method = .post ∧
      (∃ links, r.path = (K.collection links).path) ∧ r.bearer = actor.bearer)
  := by
  apply asks_bind (o.asks_create actor)
  rintro (cause | ⟨report, o'⟩)
  · trivial
  · trivial

/-- A look at the remote resource sends nothing but the request for its state. -/
theorem asks_poll (o : Object K) (actor : Actor) :
  (poll o actor).Asks (Operation.SendsOnly (· = o.request actor .get none))
  := by
  apply asks_bind (o.asks_remoteState actor)
  rintro (cause | state)
  · trivial
  · trivial

/-- A comparison loads objects, and sends nothing. -/
theorem asks_compare (o : Object K) (actor : Actor) :
  (compare o actor).Asks (·.isLoad)
  := by
  apply asks_bind (o.asks_drift? actor)
  intro result
  trivial

/-- The work of an update sends nothing but requests that update the remote resource. -/
theorem asks_update (o : Object K) (actor : Actor) :
  (update o actor).Asks
    (Operation.SendsOnly fun r => o.IsUpdate r ∧ r.bearer = actor.bearer)
  := by
  apply asks_bind (o.asks_update actor _)
  intro result
  trivial

/-- The work of a deletion sends nothing but the deletion of the remote resource. -/
theorem asks_delete (o : Object K) (actor : Actor) :
  (delete o actor).Asks (Operation.SendsOnly (· = o.request actor .delete none))
  := by
  rw [delete]
  split
  · trivial
  · apply asks_bind (o.asks_delete actor)
    intro result
    trivial

/-- The work of a phase writes nothing, and what it sends carries the token of the tenant. -/
theorem asks_ofPhase (phase : Option Phase) (o : Object K) (actor : Actor)
    (settings : PassSettings) (now : Instant) :
  (ofPhase phase o actor settings now).Asks (Operation.SendsOnly (·.bearer = actor.bearer))
  := by
  have requests (method : Method) (operation : Operation)
      (only : operation.SendsOnly (· = o.request actor method none)) :
      operation.SendsOnly (·.bearer = actor.bearer) := by
    apply Operation.SendsOnly.mono _ operation only
    rintro r rfl
    rfl
  cases phase with
  | none => trivial
  | some phase =>
    cases phase with
    | creating => exact (asks_create o actor).mono (Operation.SendsOnly.mono fun _ only => only.2.2)
    | provisioning => exact (asks_poll o actor).mono (requests .get)
    | created => exact (asks_compare o actor).mono fun _ => Operation.sendsOnly_of_isLoad
    | updating => exact (asks_update o actor).mono (Operation.SendsOnly.mono fun _ only => only.2)
    | deleting => exact (asks_delete o actor).mono (requests .delete)
    | failed =>
      apply asks_bind asks_ofOption
      intro result
      trivial

/-- A creation comes to the decision about what is reported of the resource, whose identifier is
recorded, or to a failure with the object as it was. -/
theorem takes_create (h : (create o actor).Takes course (some (decision, o'))) :
  (∃ cause, Takes (o.create actor) course (some (.error cause)) ∧
    decision = .fail cause ∧ o' = o) ∨
  ∃ report o₁, Takes (o.create actor) course (some (.ok (report, o₁))) ∧
    decision = .ofCreated report.state? ∧ o' = o₁.recordID report.id
  := by
  obtain ⟨-, ⟨⟩⟩ | ⟨result, first, second, rfl, creates, goes⟩ := takes_bind.mp h
  rcases result with cause | ⟨report, o₁⟩
  · obtain ⟨rfl, ⟨⟩⟩ := takes_done.mp goes
    rw [List.append_nil]
    exact .inl ⟨cause, creates, rfl, rfl⟩
  · obtain ⟨rfl, ⟨⟩⟩ := takes_done.mp goes
    rw [List.append_nil]
    exact .inr ⟨report, o₁, creates, rfl, rfl⟩

/-- A look at the remote resource comes to the decision about its state, or to a failure, and leaves
the object as it was. -/
theorem takes_poll (h : (poll o actor).Takes course (some (decision, o'))) :
  o' = o ∧ ((∃ cause, Takes (o.remoteState actor) course (some (.error cause)) ∧
      decision = .fail cause) ∨
    ∃ state, Takes (o.remoteState actor) course (some (.ok state)) ∧ decision = .ofState state)
  := by
  obtain ⟨-, ⟨⟩⟩ | ⟨result, first, second, rfl, polls, goes⟩ := takes_bind.mp h
  rcases result with cause | state
  · obtain ⟨rfl, ⟨⟩⟩ := takes_done.mp goes
    rw [List.append_nil]
    exact ⟨rfl, .inl ⟨cause, polls, rfl⟩⟩
  · obtain ⟨rfl, ⟨⟩⟩ := takes_done.mp goes
    rw [List.append_nil]
    exact ⟨rfl, .inr ⟨state, polls, rfl⟩⟩

/-- A comparison comes to the decision about the drift that is found, or is not. -/
theorem takes_drift? (h : (compare o actor).Takes course (some (decision, o'))) :
  o' = o ∧ ∃ found, Takes (o.drift? actor) course (some found) ∧ decision = o.decideCreated found
  := by
  obtain ⟨-, ⟨⟩⟩ | ⟨found, first, second, rfl, compares, goes⟩ := takes_bind.mp h
  obtain ⟨rfl, ⟨⟩⟩ := takes_done.mp goes
  rw [List.append_nil]
  exact ⟨rfl, found, compares, rfl⟩

/-- A comparison fails only where references cannot be resolved. -/
theorem takes_compare (h : (compare o actor).Takes course (some (decision, o'))) :
  o' = o ∧ ((∃ cause, decision = .fail cause ∧ cause.IsUnanswered) ∨
    (∃ drift, decision = .move (.drifted drift)) ∨ decision = o.decideUnchanged)
  := by
  obtain ⟨rfl, found, compares, rfl⟩ := takes_drift? h
  refine ⟨rfl, ?_⟩
  rcases found with cause | _ | drift
  · exact .inl ⟨cause, rfl, compares.ends (o'.ends_drift? actor)⟩
  · exact .inr (.inr rfl)
  · exact .inr (.inl ⟨drift, rfl⟩)

/-- An update comes to the decision about its result, with the object that it leaves. -/
theorem takes_update (h : (update o actor).Takes course (some (decision, o'))) :
  ∃ result, Takes (o.update actor o.generationChanged) course (some (result, o')) ∧
    decision = .ofUpdate result
  := by
  obtain ⟨-, ⟨⟩⟩ | ⟨⟨result, o₁⟩, first, second, rfl, updates, goes⟩ := takes_bind.mp h
  obtain ⟨rfl, ⟨⟩⟩ := takes_done.mp goes
  rw [List.append_nil]
  exact ⟨result, updates, rfl⟩

/-- A deletion lets go of an object that has no remote resource, and otherwise comes to the decision
about the answer to its request. -/
theorem takes_delete (h : (delete o actor).Takes course (some (decision, o'))) :
  o' = o ∧ (o.resourceID = "" ∧ decision = .release ∨
    ∃ answer, ⟨.send (o.request actor .delete none), answer⟩ ∈ course ∧
      decision = .ofDeletion ((Request.outcome answer).map fun _ => ()))
  := by
  rw [delete] at h
  split at h
  · obtain ⟨rfl, ⟨⟩⟩ := takes_done.mp h
    exact ⟨rfl, .inl ⟨‹_›, rfl⟩⟩
  · obtain ⟨-, ⟨⟩⟩ | ⟨result, first, second, rfl, deletes, goes⟩ := takes_bind.mp h
    obtain ⟨rfl, ⟨⟩⟩ := takes_done.mp goes
    obtain ⟨answer, rest, rfl, -, rfl⟩ := Request.takes_succeed deletes
    exact ⟨rfl, .inr ⟨answer, List.mem_append_left _ List.mem_cons_self, rfl⟩⟩

/-- Of an object that failed it is decided by its status and the time alone. -/
theorem takes_failed {settings : PassSettings} {now : Instant}
    (h : (ofPhase (some .failed) o actor settings now).Takes course (some (decision, o'))) :
  o' = o ∧ o.decideFailed? settings.requeueInterval now = some decision
  := by
  obtain ⟨-, ⟨⟩⟩ | ⟨result, first, second, rfl, decides, goes⟩ := takes_bind.mp h
  obtain ⟨rfl, ⟨⟩⟩ := takes_done.mp goes
  obtain ⟨rfl, decided⟩ := takes_ofOption.mp decides
  exact ⟨rfl, decided.symm⟩

end Work

end CloudOperator
