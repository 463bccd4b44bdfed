import CloudOperator.Proofs.Delivery
import CloudOperator.Proofs.Synchronized

/-!
# Remote resources that could not be set up

A remote resource in one of the states `Decision.failedStates` could not be set up, and no turn
should report its object as created.

Two answers tell a turn the state of the remote resource: that to the creation, and that to a
poll (`Turn.TellsState`).  A poll takes the object to the phase `Failed`.  A creation does not
look for these states: whatever is not pending counts as ready, and so the object is reported as
created (`Turn.Goes.reportsSuccess_iff`).
-/

namespace CloudOperator

open Program

variable {K : Kind} {ns name : String}

namespace Decision

variable {state : String}

/-- After a creation a failed resource counts as created. -/
theorem ofCreated_of_mem_failedStates (failed : state ∈ failedStates) :
  ofCreated (some state) = .move .created
  := by
  obtain rfl | rfl : state = "Failed" ∨ state = "Error" := by
    simpa [failedStates] using failed
  · decide
  · decide

/-- After a poll a failed resource counts as such. -/
theorem ofState_of_mem_failedStates (failed : state ∈ failedStates) :
  ofState (some state) = .move (.provisioningFailed state)
  := by
  obtain rfl | rfl : state = "Failed" ∨ state = "Error" := by
    simpa [failedStates] using failed
  · decide
  · decide

end Decision

namespace Turn

variable {t : Turn K} {state : String}

/-- An answer tells the turn a state of the remote resource: the answer to its creation, or that
to a poll. -/
def TellsState (t : Turn K) (response : Response) (state : String) : Prop :=
  ∃ request report, ⟨.send request, .ok response⟩ ∈ t.course ∧
    (Json.read response.body).bind ResourceReport.codec.decode = some report ∧
    report.state? = some state ∧
    (t.stored.phase = some .creating ∧ request.method = .post ∨
      t.stored.phase = some .provisioning ∧ request.method = .get)

/-- The turn stores that the object is created, or that its condition holds. -/
def ReportsSuccess (t : Turn K) : Prop :=
  t.StoresStatus ∧ (t.after.phase = some .created ∨ t.after.isSynchronized)

/-- What a poll comes to is the state that the answer to its request reports. -/
theorem Works.eq_of_polled {actor : Actor} {work carried : Course} {decision : Decision}
    {o : Object K} {result : Except Failure (Option String)}
    (works : t.Works ns name actor work carried decision o)
    (polls : Takes (t.stored.remoteState actor) work (some result)) {request : Request}
    {answer : Except String Response} (found : ⟨.send request, answer⟩ ∈ t.course) :
  result = (request.reported answer).map (·.state?)
  := by
  have sent := works.sent found rfl
  obtain ⟨answer, rest, rfl, quiet, rfl⟩ := Object.takes_remoteState polls
  cases Exchange.eq_of_mem_amidst (List.mem_append_right [] sent) rfl (by simp) quiet
  rfl

/-- What a turn that is told a failed state makes of the object, by one rule for each answer:
one that is no success fails the work; after a creation the object is created; and after a poll
it failed. -/
inductive TakesFailure (t : Turn K) (response : Response) (state : String) : Move → Prop
  | refused {phase : Phase} {cause : Failure} (current : t.stored.phase = some phase)
      (uncreated : phase ≠ .created) (failure : ¬ response.isSuccess) :
      TakesFailure t response state (.ofFailure phase cause)
  | created (current : t.stored.phase = some .creating) (success : response.isSuccess) :
      TakesFailure t response state .created
  | polled (current : t.stored.phase = some .provisioning) (success : response.isSuccess) :
      TakesFailure t response state (.provisioningFailed state)

variable {actor : Actor} {work carried : Course} {decision : Decision} {o : Object K} {move : Move}
  {request : Request} {response : Response} {report : ResourceReport}

theorem Works.takesFailure_of_creating
    (works : t.Works ns name actor work carried decision o)
    (makes : decision.move? o = some move) (creating : t.stored.phase = some .creating)
    (found : ⟨.send request, .ok response⟩ ∈ t.course)
    (read : (Json.read response.body).bind ResourceReport.codec.decode = some report)
    (told : report.state? = some state) (failed : state ∈ Decision.failedStates) :
  t.TakesFailure response state move
  := by
  have working := works.works
  rw [creating] at working
  obtain ⟨cause, fails, rfl, rfl⟩ | ⟨report', o₁, creates, rfl, -⟩ := Work.takes_create working
  · obtain ⟨links, -, same⟩ := works.eq_of_created fails found
    obtain ⟨-, reported⟩ | ⟨failure, -⟩ := request.reported_cases read
    · rw [reported] at same
      cases same
    · obtain rfl := Option.some.inj makes
      rw [creating]
      exact .refused creating nofun failure
  · obtain ⟨links, -, same⟩ := works.eq_of_created creates found
    obtain ⟨success, reported⟩ | ⟨-, cause, reported⟩ := request.reported_cases read
    · rw [reported] at same
      cases same
      rw [told, Decision.ofCreated_of_mem_failedStates failed] at makes
      cases makes
      exact .created creating success
    · rw [reported] at same
      cases same

theorem Works.takesFailure_of_provisioning
    (works : t.Works ns name actor work carried decision o)
    (makes : decision.move? o = some move) (provisioning : t.stored.phase = some .provisioning)
    (found : ⟨.send request, .ok response⟩ ∈ t.course)
    (read : (Json.read response.body).bind ResourceReport.codec.decode = some report)
    (told : report.state? = some state) (failed : state ∈ Decision.failedStates) :
  t.TakesFailure response state move
  := by
  have working := works.works
  rw [provisioning] at working
  obtain ⟨rfl, ⟨cause, polls, rfl⟩ | ⟨state', polls, rfl⟩⟩ := Work.takes_poll working
  · have same := works.eq_of_polled polls found
    obtain ⟨-, reported⟩ | ⟨failure, -⟩ := request.reported_cases read
    · rw [reported] at same
      cases same
    · obtain rfl := Option.some.inj makes
      rw [provisioning]
      exact .refused provisioning nofun failure
  · have same := works.eq_of_polled polls found
    obtain ⟨success, reported⟩ | ⟨-, cause, reported⟩ := request.reported_cases read
    · rw [reported] at same
      obtain rfl : state' = report.state? := Except.ok.inj same
      rw [told, Decision.ofState_of_mem_failedStates failed] at makes
      cases makes
      exact .polled provisioning success
    · rw [reported] at same
      cases same

/-- A turn that is told a failed state and moves the object takes the failure in one of the
listed ways. -/
theorem Moves.takesFailure (h : t.Moves ns name o move) (goes : t.Goes ns name)
    (tells : t.TellsState response state) (failed : state ∈ Decision.failedStates) :
  t.TakesFailure response state move
  := by
  obtain ⟨request, report, found, read, told, phase⟩ := tells
  cases h with
  | preempts preempts =>
    obtain ⟨unpreempted, -⟩ := goes.sent found rfl
    cases preempts.preempting.symm.trans unpreempted
  | works works leads makes =>
    obtain ⟨creating, -⟩ | ⟨provisioning, -⟩ := phase
    · apply works.takesFailure_of_creating makes creating found read told failed
    · apply works.takesFailure_of_provisioning makes provisioning found read told failed

/-- A turn that is told a failed state stores a success exactly if it was told so by a successful
creation; after a successful poll it stores the failure. -/
theorem Goes.reportsSuccess_iff (h : t.Goes ns name) (tells : t.TellsState response state)
    (failed : state ∈ Decision.failedStates) :
  (t.ReportsSuccess ↔
      t.StoresStatus ∧ t.stored.phase = some .creating ∧ response.isSuccess) ∧
    (t.StoresStatus → t.stored.phase = some .provisioning → response.isSuccess →
      t.after.phase = some .failed ∧ t.after.reason? = some "ProvisioningFailed")
  := by
  rw [ReportsSuccess]
  obtain ⟨unstored, -⟩ | ⟨stores, o, move, moves, after⟩ := h.status
  · simp [unstored]
  rw [Object.phase_congr after, Object.isSynchronized_congr after, Object.reason?_congr after,
    Object.isSynchronized_moved, Object.phase_moved, Object.reason?_moved]
  cases moves.takesFailure h tells failed with
  | @refused phase cause current uncreated failure =>
    have kept : (Move.ofFailure phase cause).phase ≠ .created := by
      obtain same | failed := Move.phase_ofFailure phase cause
      · rw [same]
        apply uncreated
      · simp [failed]
    simp [kept, Move.status_ofFailure, failure]
  | created current success => simp [stores, current, success, Move.created]
  | polled current success => simp [current, success, Move.provisioningFailed]

/-- A project whose remote resource failed right away. -/
def ofFailedProject : Turn .project :=
  .ofProject 1 Run.Payments.enrolling.after (reportOn "Failed") none

theorem tellsState_ofFailedProject :
  ofFailedProject.TellsState (reportOn "Failed") "Failed"
  := by
  have sends : ofFailedProject.stored.phase = some .creating ∧
      ofFailedProject.sent = [(.post, "/projects")] := by
    decide +kernel
  have read : (Json.read (reportOn "Failed").body).bind ResourceReport.codec.decode
      = some ⟨"res-9", "", some "Failed"⟩ := by
    decide +kernel
  obtain ⟨creating, sent⟩ := sends
  obtain ⟨request, answer, found, post, -⟩ :=
    exists_of_mem_sent (t := ofFailedProject) (sent ▸ List.mem_singleton_self _)
  obtain rfl := answer_ofProject found
  exact ⟨request, _, found, read, rfl, .inl ⟨creating, post⟩⟩

theorem goes_ofFailedProject :
  ofFailedProject.Goes "shop" "payments"
  := by
  apply goes_ofProject

/-- The project is stored as created. -/
theorem reportsSuccess_iff_of_payments :
  ofFailedProject.StoresStatus ∧ ofFailedProject.stored.phase = some .creating ∧
    ofFailedProject.ReportsSuccess
  := by
  have stores : ofFailedProject.StoresStatus ∧ ofFailedProject.stored.phase = some .creating ∧
      (reportOn "Failed").isSuccess := by
    decide +kernel
  obtain ⟨success, -⟩ :=
    goes_ofFailedProject.reportsSuccess_iff tellsState_ofFailedProject (by decide)
  exact ⟨stores.1, stores.2.1, success.mpr stores⟩

/-- A failure is reported as a success: the answer to the creation tells that the remote resource
failed, and the project is stored as created. -/
theorem failure_reported_as_success :
  ∃ (t : Turn .project) (response : Response) (state : String), t.Goes "shop" "payments" ∧
    t.TellsState response state ∧ state ∈ Decision.failedStates ∧ t.StoresStatus ∧
    t.after.phase = some .created ∧ t.after.isSynchronized
  := by
  refine ⟨_, _, _, goes_ofFailedProject, tellsState_ofFailedProject, by decide, ?_⟩
  decide +kernel

end Turn

end CloudOperator
