import CloudOperator.Proofs.Anchors
import CloudOperator.Proofs.PassFailure
import CloudOperator.Proofs.RemoteFailure
import CloudOperator.Proofs.Timeout
import CloudOperator.Proofs.Troubles

/-!
# What makes an object fail

An object is given up for a cause that trying again cannot mend: it stayed in its phase for too
long, the remote API blamed a request of the work, or a poll told that the remote resource could
not be set up.  Every other trouble of the work is told in the status, and the pass asks for
another one (`Turn.Goes.fails_on_terminal_cause`).

Which troubles are of the one kind and which of the other is told by the answers
(`Exchange.Refuses`, `Exchange.Hinders`); that these are all is `Exchange.cases_of_mem_troubles`.
-/

namespace CloudOperator

open Program

variable {K : Kind} {ns name : String}

namespace Exchange

/-- The remote API blames the request of the work of a phase, and does not say that a resource is
not ready.  To a deletion it may answer that there is no resource. -/
inductive Refuses (phase : Option Phase) : Exchange Operation.Answer → Prop
  | answered {request : Request} {response : Response}
      (blames : 400 ≤ response.status ∧ response.status ≤ 499)
      (unmarked : (Problem.ofBody response.status response.body).notReady = false)
      (present : ¬ (phase = some .deleting ∧ response.status = 404)) :
      Refuses phase ⟨.send request, .ok response⟩

/-- What else the work of a phase fails for, by one rule for each cause: the remote API is not
reached; its answer to a creation or a poll cannot be read; it answers neither with a success nor
by blaming the request; it says that a resource is not ready; a reference cannot be looked up, leads
to no object, or leads to one that has no remote resource. -/
inductive Hinders (phase : Option Phase) : Exchange Operation.Answer → Prop
  | unreached {request : Request} {detail : String} :
      Hinders phase ⟨.send request, .error detail⟩
  | unread {request : Request} {response : Response}
      (reads : phase = some .creating ∨ phase = some .provisioning)
      (success : response.isSuccess)
      (undecodable : (Json.read response.body).bind ResourceReport.codec.decode = none) :
      Hinders phase ⟨.send request, .ok response⟩
  | failed {request : Request} {response : Response} (failure : ¬ response.isSuccess)
      (other : response.status < 400 ∨ 499 < response.status) :
      Hinders phase ⟨.send request, .ok response⟩
  | marked {request : Request} {response : Response} (failure : ¬ response.isSuccess)
      (marked : (Problem.ofBody response.status response.body).notReady)
      (present : ¬ (phase = some .deleting ∧ response.status = 404)) :
      Hinders phase ⟨.send request, .ok response⟩
  | unloaded {K : Kind} {ns name : String} {cause : StoreFailure} :
      Hinders phase ⟨.load K ns name, .error cause⟩
  | missing {K : Kind} {ns name : String} : Hinders phase ⟨.load K ns name, .ok none⟩
  | unready {K : Kind} {ns name : String} {o : Object K} (unnamed : o.resourceID = "") :
      Hinders phase ⟨.load K ns name, .ok (some o)⟩

/-- The answer to a poll reports a state in which the remote resource could not be set up. -/
inductive ReportsFailure (phase : Option Phase) : Exchange Operation.Answer → Prop
  | polled {request : Request} {response : Response} {report : ResourceReport} {state : String}
      (provisioning : phase = some .provisioning) (success : response.isSuccess)
      (read : (Json.read response.body).bind ResourceReport.codec.decode = some report)
      (told : report.state? = some state) (failed : state ∈ Decision.failedStates) :
      ReportsFailure phase ⟨.send request, .ok response⟩

variable {phase : Option Phase} {exchange : Exchange Operation.Answer} {request : Request}
  {response : Response} {cause : Failure}

theorem ReportsFailure.provisioning (h : exchange.ReportsFailure phase) :
  phase = some .provisioning
  := by
  cases h with
  | polled provisioning => exact provisioning

theorem isClientError_iff (status : Nat) (body : String) :
  (Problem.ofBody status body).isClientError ↔ 400 ≤ status ∧ status ≤ 499
  := by
  change (decide (400 ≤ status) && decide (status < 500)) = true ↔ _
  rw [Bool.and_eq_true, decide_eq_true_iff, decide_eq_true_iff]
  omega

/-- A phase gives up for a problem that blames the request and is not marked. -/
theorem ofFailure_problem_iff {p : Problem} :
  Reaction.ofFailure (.problem p) = .failTerminal ↔ p.notReady = false ∧ p.isClientError
  := by
  cases marked : p.notReady with
  | true => simp [Reaction.ofFailure, marked]
  | false =>
    by_cases blames : p.isClientError
    · simp [Reaction.ofFailure, marked, blames]
    · simp [Reaction.ofFailure, marked, blames]

theorem complaints_of_unreached {detail : String} :
  request.complaints phase (.error detail) = [.transport detail]
  := by
  unfold Request.complaints
  split
  · rfl
  · rfl
  · rfl
  · rfl

/-- What is wrong with an answer that is no success is told by its problem, unless a deletion
finds nothing to delete. -/
theorem complaints_of_failure (failure : ¬ response.isSuccess) :
  request.complaints phase (.ok response) =
    if phase = some .deleting ∧ response.status = 404 then []
    else [.problem (.ofBody response.status response.body)]
  := by
  have outcome : Request.outcome (.ok response)
      = .error (.problem (.ofBody response.status response.body)) := if_neg failure
  have reported : request.reported (.ok response)
      = .error (.problem (.ofBody response.status response.body)) := by
    rw [Request.reported, outcome]
  unfold Request.complaints
  split
  · rw [reported]
    rfl
  · rw [reported]
    rfl
  · rw [outcome]
    by_cases gone : response.status = 404
    · simp [causes, Failure.isNotFound, Failure.problem?, Problem.isNotFound, Problem.ofBody, gone]
    · simp [causes, Failure.isNotFound, Failure.problem?, Problem.isNotFound, Problem.ofBody, gone]
  · rw [outcome, if_neg]
    · rfl
    · rintro ⟨rfl, -⟩
      simp at *

/-- An answer that is a success means trouble where it has to report on a resource and cannot be
read. -/
theorem complaints_of_success (success : response.isSuccess) :
  request.complaints phase (.ok response) =
    if (phase = some .creating ∨ phase = some .provisioning) ∧
        (Json.read response.body).bind ResourceReport.codec.decode = none then
      [.transport ("decoding response of " ++ request.label ++
        " failed: no resource in the body")]
    else []
  := by
  have outcome : Request.outcome (.ok response) = .ok response.body := if_pos success
  unfold Request.complaints Request.reported
  rw [outcome]
  dsimp only
  cases (Json.read response.body).bind ResourceReport.codec.decode with
  | none => split <;> simp_all [causes]
  | some report => split <;> simp_all [causes]

/-- The troubles of an exchange are those that make the object fail, and those that do not. -/
theorem cases_of_mem_troubles (found : cause ∈ exchange.troubles phase) :
  exchange.Refuses phase ∧ Reaction.ofFailure cause = .failTerminal ∨
    exchange.Hinders phase ∧ Reaction.ofFailure cause ≠ .failTerminal
  := by
  unfold troubles at found
  split at found
  · obtain rfl := List.mem_singleton.mp found
    exact .inr ⟨.unloaded, by rintro ⟨⟩⟩
  · obtain rfl := List.mem_singleton.mp found
    exact .inr ⟨.missing, by rintro ⟨⟩⟩
  · split at found
    · obtain rfl := List.mem_singleton.mp found
      exact .inr ⟨.unready ‹_›, by rintro ⟨⟩⟩
    · cases found
  · rename_i request answer
    rcases answer with detail | response
    · rw [complaints_of_unreached] at found
      obtain rfl := List.mem_singleton.mp found
      exact .inr ⟨.unreached, by rintro ⟨⟩⟩
    · by_cases success : response.isSuccess
      · rw [complaints_of_success success] at found
        split at found
        · obtain ⟨reads, undecodable⟩ := ‹_ ∧ _›
          obtain rfl := List.mem_singleton.mp found
          exact .inr ⟨.unread reads success undecodable, by rintro ⟨⟩⟩
        · cases found
      · rw [complaints_of_failure success] at found
        split at found
        · cases found
        obtain rfl := List.mem_singleton.mp found
        rw [Ne, ofFailure_problem_iff, isClientError_iff]
        by_cases blames : 400 ≤ response.status ∧ response.status ≤ 499
        · cases marked : (Problem.ofBody response.status response.body).notReady with
          | false => exact .inl ⟨.answered blames marked ‹_›, rfl, blames⟩
          | true =>
            exact .inr ⟨.marked success marked ‹_›, fun told => Bool.false_ne_true told.1.symm⟩
        · exact .inr ⟨.failed success (by omega), fun refused => blames refused.2⟩
  · cases found

theorem Refuses.exists_cause (h : exchange.Refuses phase) :
  ∃ cause ∈ exchange.troubles phase, Reaction.ofFailure cause = .failTerminal
  := by
  cases h with
  | @answered request response blames unmarked present =>
    have failure : ¬ response.isSuccess := by
      rw [Response.isSuccess, Bool.and_eq_true, decide_eq_true_iff, decide_eq_true_iff]
      omega
    refine ⟨.problem (.ofBody response.status response.body), ?_, ?_⟩
    · rw [troubles, complaints_of_failure failure, if_neg present]
      apply List.mem_singleton_self
    · exact ofFailure_problem_iff.mpr ⟨unmarked, (isClientError_iff ..).mpr blames⟩

theorem Hinders.exists_cause (h : exchange.Hinders phase) :
  ∃ cause ∈ exchange.troubles phase, Reaction.ofFailure cause ≠ .failTerminal
  := by
  cases h with
  | @unloaded K ns name cause => exact ⟨.store cause, List.mem_singleton_self _, by rintro ⟨⟩⟩
  | @missing K ns name =>
    exact ⟨.referenceNotFound K.name ns name, List.mem_singleton_self _, by rintro ⟨⟩⟩
  | @unready K ns name o unnamed =>
    refine ⟨.dependencyNotReady K.name ns name, ?_, by rintro ⟨⟩⟩
    rw [troubles, if_pos unnamed]
    apply List.mem_singleton_self
  | @unreached request detail =>
    refine ⟨.transport detail, ?_, by rintro ⟨⟩⟩
    rw [troubles, complaints_of_unreached]
    apply List.mem_singleton_self
  | @unread request response reads success undecodable =>
    refine ⟨.transport ("decoding response of " ++ request.label ++
      " failed: no resource in the body"), ?_, by rintro ⟨⟩⟩
    rw [troubles, complaints_of_success success, if_pos ⟨reads, undecodable⟩]
    apply List.mem_singleton_self
  | @failed request response failure other =>
    refine ⟨.problem (.ofBody response.status response.body), ?_, ?_⟩
    · rw [troubles, complaints_of_failure failure, if_neg (by omega)]
      apply List.mem_singleton_self
    · rw [Ne, ofFailure_problem_iff, isClientError_iff]
      omega
  | @marked request response failure marked present =>
    refine ⟨.problem (.ofBody response.status response.body), ?_, ?_⟩
    · rw [troubles, complaints_of_failure failure, if_neg present]
      apply List.mem_singleton_self
    · rw [Ne, ofFailure_problem_iff, marked]
      exact fun told => Bool.false_ne_true told.1.symm

/-- An exchange that matters to what becomes of the object. -/
def Matters (phase : Option Phase) (exchange : Exchange Operation.Answer) : Prop :=
  exchange.Refuses phase ∨ exchange.Hinders phase ∨ exchange.ReportsFailure phase

/-- Nothing that is written or counted matters. -/
theorem not_matters_of_isLocal (isLocal : exchange.question.isLocal) :
  ¬ exchange.Matters phase
  := by
  rintro (refuses | hinders | reports)
  · cases refuses
    cases isLocal
  · cases hinders <;> cases isLocal
  · cases reports
    cases isLocal

end Exchange

theorem Decision.eq_fail_of_mem_causes {decision : Decision} {cause : Failure}
    (blamed : cause ∈ decision.causes) :
  decision = .fail cause
  := by
  cases decision with
  | fail cause' => rw [List.mem_singleton.mp blamed]
  | _ => cases blamed

/-! ## Moves -/

/-- A failure leads to the failed phase if trying again cannot help, and else it is tried again in
the same phase. -/
theorem Move.ofFailure_eq (current : Phase) (cause : Failure) :
  Reaction.ofFailure cause = .failTerminal ∧ (ofFailure current cause).phase = .failed ∧
      (ofFailure current cause).requeue = false ∨
    Reaction.ofFailure cause ≠ .failTerminal ∧ (ofFailure current cause).phase = current ∧
      (ofFailure current cause).requeue
  := by
  rw [ofFailure]
  cases Reaction.ofFailure cause with
  | failTerminal => exact .inl ⟨rfl, rfl, rfl⟩
  | retrySamePhase =>
    refine .inr ⟨by rintro ⟨⟩, ?_⟩
    dsimp only
    split
    · exact ⟨rfl, rfl⟩
    · exact ⟨rfl, rfl⟩
  | retryWithBackoff =>
    refine .inr ⟨by rintro ⟨⟩, ?_⟩
    dsimp only
    split
    · exact ⟨rfl, rfl⟩
    · exact ⟨rfl, rfl⟩

namespace Task

variable {t : Task K} {settings : PassSettings} {now : Instant} {course : Course}
  {decision : Decision} {move : Move} {result? : Option (Outcome K)}

/-- The status is written at once if the move that a decision makes is due. -/
theorem asked_carryOut (makes : decision.move? t.object = some move)
    (enrolled : decision ≠ .enroll)
    (due : t.object.debounce? t.history settings.requeueInterval move now = some none)
    (h : (t.carryOut settings now decision).Takes course result?) :
  (t.carryOut settings now decision).Awaits course ∨
    ∃ answer, ⟨.writeStatus K (t.object.moved move now), answer⟩ ∈ course
  := by
  cases decision with
  | move m =>
    cases makes
    obtain awaits | ⟨answer, rest, rfl⟩ := asked_move due h
    · exact .inl awaits
    · exact .inr ⟨answer, List.mem_cons_self⟩
  | fail cause =>
    cases makes
    obtain ⟨rfl, rfl⟩ | ⟨answer, rest, rfl, goes⟩ := takes_question_bind.mp h
    · exact .inl (awaits_question _ _)
    · obtain awaits | ⟨answer, rest, rfl⟩ := asked_move due goes
      · exact .inl awaits.question_bind
      · exact .inr ⟨answer, List.mem_cons_of_mem _ List.mem_cons_self⟩
  | enroll => cases enrolled rfl
  | rest | wait | release => cases makes

/-- A move comes to a result if it is decided whether it has to wait. -/
theorem stays_move {wait? : Option Nat}
    (decides : t.object.debounce? t.history settings.requeueInterval move now = some wait?) :
  (t.move settings move now).Stays
  := by
  rw [Task.move, decides]
  cases wait? with
  | some duration => exact fun _ => trivial
  | none =>
    rintro (cause | stored)
    · trivial
    · change Stays (if _ then _ else _)
      split
      · exact fun _ => trivial
      · trivial

/-- A move that asks for another pass ends with one, unless its write is refused. -/
theorem ends_move (requeues : move.requeue) :
  (t.move settings move now).Ends fun result =>
    ∀ directive, result.1 = .ok directive → directive.isRequeue
  := by
  apply ends_bind
  apply ends_of_forall
  rintro (_ | duration)
  · rintro (cause | stored)
    · rintro directive ⟨⟩
    · dsimp only
      rw [if_pos requeues]
      split
      · intro _
        rintro directive ⟨⟩
        rfl
      · rintro directive ⟨⟩
        rfl
  · intro _
    rintro directive ⟨⟩
    rfl

/-- So does carrying out that the work failed. -/
theorem ends_fail (cause : Failure)
    (retried : (Move.ofFailure (t.object.phase.getD .creating) cause).requeue) :
  (t.carryOut settings now (.fail cause)).Ends fun result =>
    ∀ directive, result.1 = .ok directive → directive.isRequeue
  := fun _ => ends_move retried

theorem FailsOn.exists_refusal {cause : StoreFailure} (h : t.FailsOn decision cause course) :
  ∃ exchange ∈ course, exchange.refusal? = some cause
  := by
  cases h with
  | refused _ refusal => exact ⟨_, List.mem_append_right _ List.mem_cons_self, refusal⟩
  | halfway _ _ => exact ⟨_, List.mem_cons_of_mem _ List.mem_cons_self, rfl⟩

end Task

namespace Work

variable {o o' : Object K} {actor : Actor} {settings : PassSettings} {now : Instant}
  {course : Course} {decision : Decision}

theorem ofState_eq_provisioningFailed {state? : Option String} {state : String}
    (same : Decision.ofState state? = .move (.provisioningFailed state)) :
  ∃ state ∈ Decision.failedStates, state? = some state
  := by
  unfold Decision.ofState at same
  split at same
  · cases same
  · split at same
    · cases same
    · split at same
      · exact ⟨_, List.contains_iff_mem.mp ‹_›, rfl⟩
      · cases same

/-- What is decided about a report on the remote resource, if there is one. -/
def decidePolled : Except Failure ResourceReport → Decision
  | .error cause => .fail cause
  | .ok report => .ofState report.state?

/-- A poll sends one request, and decides about what is reported to it. -/
theorem takes_poll_report (h : (poll o actor).Takes course (some (decision, o'))) :
  ∃ answer rest, course = ⟨.send (o.request actor .get none), answer⟩ :: rest ∧
    (∀ exchange ∈ rest, exchange.question.isQuiet) ∧
    decision = decidePolled ((o.request actor .get none).reported answer)
  := by
  obtain ⟨-, ⟨cause, polls, rfl⟩ | ⟨state?, polls, rfl⟩⟩ := takes_poll h
  · obtain ⟨answer, rest, rfl, quiet, same⟩ := Object.takes_remoteState polls
    refine ⟨answer, rest, rfl, quiet, ?_⟩
    rcases reported : (o.request actor .get none).reported answer with cause | report
    · rw [reported] at same
      cases same
      rfl
    · rw [reported] at same
      cases same
  · obtain ⟨answer, rest, rfl, quiet, same⟩ := Object.takes_remoteState polls
    refine ⟨answer, rest, rfl, quiet, ?_⟩
    rcases reported : (o.request actor .get none).reported answer with cause | report
    · rw [reported] at same
      cases same
    · rw [reported] at same
      cases same
      rfl

/-- A poll takes the object to its failure if a failure is reported to it. -/
theorem poll_fails_iff (h : (poll o actor).Takes course (some (decision, o'))) :
  (∃ state, decision = .move (.provisioningFailed state)) ↔
    ∃ exchange ∈ course, exchange.ReportsFailure (some .provisioning)
  := by
  obtain ⟨answer, rest, rfl, quiet, rfl⟩ := takes_poll_report h
  constructor
  · rintro ⟨state, same⟩
    rcases reported : (o.request actor .get none).reported answer with cause | report
    · rw [reported] at same
      cases same
    · rw [reported] at same
      obtain ⟨response, rfl, success, read⟩ := Request.reported_eq_ok.mp reported
      obtain ⟨state, failed, told⟩ := ofState_eq_provisioningFailed same
      exact ⟨_, List.mem_cons_self, .polled rfl success read told failed⟩
  · rintro ⟨_, found, @⟨request, response, report, state, -, success, read, told, failed⟩⟩
    cases Exchange.eq_of_mem_amidst (List.mem_append_right [] found) rfl (by simp) quiet
    have reported : (o.request actor .get none).reported (.ok response) = .ok report :=
      Request.reported_eq_ok.mpr ⟨response, rfl, success, read⟩
    refine ⟨state, ?_⟩
    rw [reported, decidePolled, told, Decision.ofState_of_mem_failedStates failed]

end Work

namespace Turn

variable {t : Turn K} {actor : Actor} {work carried rest : Course} {decision : Decision}
  {o : Object K} {move : Move}

/-- The turn is not given up, and all that it writes is accepted. -/
structure Completes (t : Turn K) (ns name : String) : Prop where
  finished : ¬ t.GivenUp ns name
  accepted : ∀ exchange ∈ t.course, exchange.refusal? = none

theorem Completes.storesStatus (h : t.Completes ns name) {answer : Except StoreFailure (Object K)}
    (found : ⟨.writeStatus K o, answer⟩ ∈ t.course) :
  t.StoresStatus
  := by
  refine ⟨_, found, ?_⟩
  cases answer with
  | error cause => cases h.accepted _ found
  | ok stored => rfl

/-! ## Moves that are made -/

theorem Preempts.phase_after (preempts : t.Preempts ns name actor carried move)
    (goes : t.Goes ns name) (stores : t.StoresStatus) :
  t.after.phase = some move.phase
  := by
  obtain ⟨unstored, -⟩ | ⟨-, o, move', moves, after⟩ := goes.status
  · cases unstored stores
  rw [Object.phase_congr after, Object.phase_moved]
  cases moves with
  | preempts preempts' =>
    cases preempts.preempting.symm.trans preempts'.preempting
    rfl
  | works works => cases preempts.preempting.symm.trans works.unpreempted

theorem Works.phase_after (works : t.Works ns name actor work carried decision o)
    (goes : t.Goes ns name) (makes : decision.move? o = some move) (stores : t.StoresStatus) :
  t.after.phase = some move.phase
  := by
  obtain ⟨unstored, -⟩ | ⟨-, o', move', moves, after⟩ := goes.status
  · cases unstored stores
  rw [Object.phase_congr after, Object.phase_moved]
  cases moves with
  | preempts preempts => cases preempts.preempting.symm.trans works.unpreempted
  | works works' _ makes' =>
    obtain ⟨-, -, rfl, rfl⟩ := works.unique works'
    cases makes.symm.trans makes'
    rfl

/-- A move that comes before the work is due. -/
theorem Preempts.storesStatus (preempts : t.Preempts ns name actor carried move)
    (goes : t.Goes ns name) (completes : t.Completes ns name) :
  t.StoresStatus
  := by
  have due : t.stored.debounce? t.memory.writes t.settings.requeueInterval move t.now
      = some none := by
    obtain ⟨-, rfl⟩ | ⟨deletes, rfl⟩ := Object.preempting_cases preempts.preempting
    · exact Object.debounce?_of_settled rfl
    · apply Object.debounce?_of_leaving
      rintro deleting
      simp [Object.isToBeDeleted, deleting, Move.toBeDeleted] at deletes
  obtain ⟨tokens, result?, moves, -, waits⟩ := preempts.carried goes
  obtain ⟨opening, course, -⟩ := isQuiet_of_reaches preempts.reaches
  obtain awaits | ⟨answer, last, rfl⟩ := Task.asked_move due moves
  · cases completes.finished (waits awaits)
  · refine completes.storesStatus (?_ : ⟨_, answer⟩ ∈ t.course)
    rw [course]
    exact List.mem_append_right _ List.mem_cons_self

/-- So is a move that takes the object to its failure. -/
theorem Works.storesStatus (works : t.Works ns name actor work carried decision o)
    (goes : t.Goes ns name) (completes : t.Completes ns name)
    (makes : decision.move? o = some move) (settled : move.requeue = false) :
  t.StoresStatus
  := by
  have enrolled : decision ≠ .enroll := by
    rintro rfl
    cases makes
    cases settled
  obtain ⟨tokens, result?, carries, -, waits⟩ := works.carried goes
  obtain ⟨opening, course, -⟩ := works.split
  obtain awaits | ⟨answer, found⟩ :=
    Task.asked_carryOut makes enrolled (Object.debounce?_of_settled settled) carries
  · cases completes.finished (waits awaits)
  · refine completes.storesStatus (?_ : ⟨_, answer⟩ ∈ t.course)
    rw [course]
    exact List.mem_append_right _ found

/-! ## The failed phase -/

theorem Preempts.not_matters (preempts : t.Preempts ns name actor carried move)
    {phase : Option Phase} {exchange : Exchange Operation.Answer} (found : exchange ∈ carried) :
  ¬ exchange.Matters phase
  := by
  obtain ⟨result?, carries⟩ := preempts.carries
  exact Exchange.not_matters_of_isLocal (carries.asked (Task.asks_move ..) exchange found)

/-- A turn whose move comes before the work stores the failed phase if the phase timed out. -/
theorem Preempts.fails_iff (preempts : t.Preempts ns name actor carried move)
    (goes : t.Goes ns name) (completes : t.Completes ns name) :
  t.after.phase = some .failed ↔ t.stored.isOverdue t.settings.phaseTimeout t.now
  := by
  rw [preempts.phase_after goes (preempts.storesStatus goes completes)]
  constructor
  · intro failed
    obtain ⟨overdue, -⟩ | ⟨-, rfl⟩ := Object.preempting_cases preempts.preempting
    · exact overdue
    · cases failed
  · intro overdue
    have preempting := preempts.preempting
    rw [Object.preempting?, if_pos overdue] at preempting
    cases preempting
    rfl

theorem Preempts.isToBeDeleted (preempts : t.Preempts ns name actor carried move)
    (onTime : ¬ t.stored.isOverdue t.settings.phaseTimeout t.now) :
  t.stored.isToBeDeleted
  := by
  obtain ⟨overdue, -⟩ | ⟨deletes, -⟩ := Object.preempting_cases preempts.preempting
  · cases onTime overdue
  · exact deletes

theorem Works.not_isOverdue (works : t.Works ns name actor work carried decision o) :
  ¬ t.stored.isOverdue t.settings.phaseTimeout t.now
  := by
  intro overdue
  have unpreempted := works.unpreempted
  rw [Object.preempting?, if_pos overdue] at unpreempted
  cases unpreempted

/-- The work makes the object fail where a poll decides so, or where it fails and trying again
cannot help. -/
theorem Works.cases_of_failed (works : t.Works ns name actor work carried decision o)
    (working : t.stored.phase ≠ some .failed) (makes : decision.move? o = some move)
    (failed : move.phase = .failed) :
  t.stored.phase = some .provisioning ∧ (∃ state, decision = .move (.provisioningFailed state)) ∨
    ∃ cause, decision = .fail cause ∧ Reaction.ofFailure cause = .failTerminal
  := by
  cases Work.leads works.works with
  | enrolled | drifted | changed | updated =>
    cases makes
    cases failed
  | matching | released | resting | waiting => cases makes
  | deleted phase | retried phase | resumed phase => cases working phase
  | created _ _ settled =>
    cases makes
    obtain rfl | rfl := settled
    · cases failed
    · cases failed
  | polled phase told =>
    cases makes
    obtain rfl | rfl | ⟨state, rfl⟩ := told
    · cases failed
    · cases failed
    · exact .inl ⟨phase, state, rfl⟩
  | @failed _ phase cause current _ _ rewired =>
    cases makes
    rw [rewired.phase, current, Option.getD_some] at failed
    obtain ⟨terminal, -⟩ | ⟨-, same, -⟩ := Move.ofFailure_eq phase cause
    · exact .inr ⟨cause, rfl, terminal⟩
    · rw [current, ← same, failed] at working
      cases working rfl

/-- The work makes the object fail if it was refused, or if a failure was reported to it. -/
theorem Works.makesFailure_iff (works : t.Works ns name actor work carried decision o)
    (working : t.stored.phase ≠ some .failed) :
  (∃ move, decision.move? o = some move ∧ move.phase = .failed) ↔
    (∃ exchange ∈ work, exchange.Refuses t.stored.phase) ∨
      ∃ exchange ∈ work, exchange.ReportsFailure t.stored.phase
  := by
  have troubles := Work.flatMap_troubles working works.works
  have polls := works.works
  constructor
  · rintro ⟨move, makes, failed⟩
    obtain ⟨phase, told⟩ | ⟨cause, rfl, terminal⟩ := works.cases_of_failed working makes failed
    · right
      rw [phase] at polls ⊢
      exact (Work.poll_fails_iff polls).mp told
    · left
      have blamed : cause ∈ work.flatMap (Exchange.troubles t.stored.phase) :=
        troubles ▸ List.mem_singleton_self cause
      obtain ⟨exchange, found, blamed⟩ := List.mem_flatMap.mp blamed
      obtain ⟨refuses, -⟩ | ⟨-, temporary⟩ := Exchange.cases_of_mem_troubles blamed
      · exact ⟨exchange, found, refuses⟩
      · cases temporary terminal
  · rintro (⟨exchange, found, refuses⟩ | ⟨exchange, found, reports⟩)
    · obtain ⟨cause, blamed, terminal⟩ := refuses.exists_cause
      have blamed := List.mem_flatMap_of_mem found blamed
      rw [troubles] at blamed
      obtain rfl := Decision.eq_fail_of_mem_causes blamed
      refine ⟨_, rfl, ?_⟩
      obtain ⟨-, failed, -⟩ | ⟨temporary, -⟩ := Move.ofFailure_eq (o.phase.getD .creating) cause
      · exact failed
      · cases temporary terminal
    · have provisioning := reports.provisioning
      rw [provisioning] at polls reports
      obtain ⟨state, rfl⟩ := (Work.poll_fails_iff polls).mpr ⟨exchange, found, reports⟩
      exact ⟨_, rfl, rfl⟩

/-- A turn that does the work stores the failed phase if the work makes the object fail. -/
theorem Works.fails_iff (works : t.Works ns name actor work carried decision o)
    (goes : t.Goes ns name) (completes : t.Completes ns name)
    (working : t.stored.phase ≠ some .failed) :
  t.after.phase = some .failed ↔ ∃ move, decision.move? o = some move ∧ move.phase = .failed
  := by
  constructor
  · intro failed
    obtain leaves | ⟨o', move, writes⟩ := goes.writes
    · rw [← Object.phase_congr leaves.status] at working
      cases working failed
    cases writes.moves with
    | preempts preempts => cases preempts.preempting.symm.trans works.unpreempted
    | works works' _ makes =>
      obtain ⟨-, -, rfl, rfl⟩ := works.unique works'
      rw [works.phase_after goes makes writes.stores] at failed
      exact ⟨move, makes, Option.some.inj failed⟩
  · rintro ⟨move, makes, failed⟩
    have settled : move.requeue = false := by
      obtain ⟨-, state, rfl⟩ | ⟨cause, rfl, terminal⟩ :=
        works.cases_of_failed working makes failed
      · cases makes
        rfl
      · cases makes
        obtain ⟨-, -, settled⟩ | ⟨temporary, -⟩ :=
          Move.ofFailure_eq (o.phase.getD .creating) cause
        · exact settled
        · cases temporary terminal
    rw [works.phase_after goes makes (works.storesStatus goes completes makes settled), failed]

/-- A failure of the work that can be mended leaves the phase, and the turn asks for another
one. -/
theorem Works.retries {cause : Failure}
    (works : t.Works ns name actor work carried (.fail cause) o) (goes : t.Goes ns name)
    (completes : t.Completes ns name) (temporary : Reaction.ofFailure cause ≠ .failTerminal)
    (decides : ∀ move, ∃ wait?,
      o.debounce? t.memory.writes t.settings.requeueInterval move t.now = some wait?) :
  t.after.phase = t.stored.phase ∧
    ∃ directive memory, t.result? = some (.ok directive, memory) ∧ directive.isRequeue
  := by
  obtain ⟨current, requeues⟩ : (Move.ofFailure (o.phase.getD .creating) cause).phase
      = o.phase.getD .creating ∧ (Move.ofFailure (o.phase.getD .creating) cause).requeue := by
    obtain ⟨terminal, -⟩ | ⟨-, kept⟩ := Move.ofFailure_eq (o.phase.getD .creating) cause
    · cases temporary terminal
    · exact kept
  constructor
  · obtain leaves | ⟨o', move, writes⟩ := goes.writes
    · exact Object.phase_congr leaves.status
    cases writes.moves with
    | preempts preempts => cases preempts.preempting.symm.trans works.unpreempted
    | works works' leads makes =>
      obtain ⟨-, -, rfl, rfl⟩ := works.unique works'
      rw [works.phase_after goes makes writes.stores]
      cases makes
      cases leads with
      | failed phase _ _ rewired =>
        rw [current, rewired.phase, phase, Option.getD_some]
  · obtain ⟨tokens, result?, carries, ends, waits⟩ := works.carried goes
    obtain ⟨wait?, decided⟩ := decides (.ofFailure (o.phase.getD .creating) cause)
    have stays : (Task.carryOut ⟨o, t.memory.writes⟩ t.settings t.now (.fail cause)).Stays :=
      fun _ => Task.stays_move decided
    rcases result? with _ | ⟨result, t'⟩
    · cases completes.finished (waits (stays.awaits carries))
    obtain failure | directive := result
    · obtain ⟨cause', -, -, fails⟩ := Task.fails_carryOut carries
      obtain ⟨exchange, found, refusal⟩ := fails.exists_refusal
      obtain ⟨opening, course, -⟩ := works.split
      have accepted := completes.accepted exchange (course ▸ List.mem_append_right _ found)
      cases refusal.symm.trans accepted
    · exact ⟨directive, _, ends, carries.ends (Task.ends_fail cause requeues) directive rfl⟩

/-- What the work fails for. -/
theorem Works.causes_iff (works : t.Works ns name actor work carried decision o)
    (working : t.stored.phase ≠ some .failed) :
  (∃ cause, decision = .fail cause) ↔
    ∃ exchange ∈ work, exchange.Refuses t.stored.phase ∨ exchange.Hinders t.stored.phase
  := by
  have troubles := Work.flatMap_troubles working works.works
  constructor
  · rintro ⟨cause, rfl⟩
    have blamed : cause ∈ work.flatMap (Exchange.troubles t.stored.phase) :=
      troubles ▸ List.mem_singleton_self cause
    obtain ⟨exchange, found, blamed⟩ := List.mem_flatMap.mp blamed
    obtain ⟨refuses, -⟩ | ⟨hinders, -⟩ := Exchange.cases_of_mem_troubles blamed
    · exact ⟨exchange, found, .inl refuses⟩
    · exact ⟨exchange, found, .inr hinders⟩
  · rintro ⟨exchange, found, meets⟩
    obtain ⟨cause, blamed⟩ : ∃ cause, cause ∈ exchange.troubles t.stored.phase := by
      obtain refuses | hinders := meets
      · exact refuses.exists_cause.imp fun _ => And.left
      · exact hinders.exists_cause.imp fun _ => And.left
    have blamed := List.mem_flatMap_of_mem found blamed
    rw [troubles] at blamed
    exact ⟨cause, Decision.eq_fail_of_mem_causes blamed⟩

/-- What matters is found on the course of the work. -/
theorem Works.mem_work (works : t.Works ns name actor work carried decision o)
    {phase : Option Phase} {exchange : Exchange Operation.Answer}
    (found : exchange ∈ work ++ carried) (matters : exchange.Matters phase) :
  exchange ∈ work
  := by
  obtain found | found := List.mem_append.mp found
  · exact found
  · obtain ⟨result?, carries⟩ := works.carries
    have asked := carries.asked (Task.asks_carryOut ..) exchange found
    cases Exchange.not_matters_of_isLocal asked matters

/-- What hinders the work leaves the phase, and the turn asks for another one. -/
theorem Works.retries_of_hinders (works : t.Works ns name actor work carried decision o)
    (goes : t.Goes ns name) (completes : t.Completes ns name)
    (working : t.stored.phase ≠ some .failed) {exchange : Exchange Operation.Answer}
    (found : exchange ∈ work) (hinders : exchange.Hinders t.stored.phase)
    (decides : ∀ move, ∃ wait?,
      o.debounce? t.memory.writes t.settings.requeueInterval move t.now = some wait?) :
  t.after.phase = t.stored.phase ∧
    ∃ directive memory, t.result? = some (.ok directive, memory) ∧ directive.isRequeue
  := by
  obtain ⟨cause, blamed, temporary⟩ := hinders.exists_cause
  have blamed := List.mem_flatMap_of_mem found blamed
  rw [Work.flatMap_troubles working works.works] at blamed
  obtain rfl := Decision.eq_fail_of_mem_causes blamed
  exact works.retries goes completes temporary decides

/-- A turn that completes makes a move before the work, or does the work. -/
theorem Goes.preempts_or_works (h : t.Goes ns name) (reaches : t.Reaches ns name actor rest)
    (completes : t.Completes ns name) (working : t.stored.phase ≠ some .failed) :
  (∃ move, t.Preempts ns name actor rest move) ∨
    ∃ work carried decision o, rest = work ++ carried ∧
      t.Works ns name actor work carried decision o
  := by
  obtain ⟨tokens, result?, proceeds, -, waits⟩ := h.proceeds reaches
  obtain ⟨move, preempting, carries⟩ |
      ⟨unpreempted, ⟨stalls, -⟩ | ⟨decision, o, work, carried, rfl, goesOn, carries⟩⟩ :=
    Task.takes_proceed proceeds
  · exact .inl ⟨move, reaches, preempting, result?, carries⟩
  · rw [Task.proceed_of_unpreempted unpreempted] at waits
    have awaits := (Work.stays_ofPhase working).awaits stalls
    cases completes.finished (waits awaits.bind)
  · exact .inr ⟨work, carried, decision, o, rfl, reaches, unpreempted, goesOn, result?, carries⟩

/-- A turn that finds an object in another phase than the failed one, authenticates its tenant and
has all its writes accepted takes the object to the failed phase just if

* the phase timed out,
* or no deletion comes first, and the remote API blames a request of the work,
* or a poll reports that the remote resource could not be set up.

For everything else that hinders the work the turn leaves the phase and asks for another turn.
These are all the answers for which the work fails. -/
theorem Goes.fails_on_terminal_cause (h : t.Goes ns name) (reaches : t.Reaches ns name actor rest)
    (completes : t.Completes ns name) (working : t.stored.phase ≠ some .failed)
    (short : t.settings.requeueInterval ≤ 1_000_000_000_000 * 1_000_000_000)
    (reading : t.now.IsReading)
    (written : ∀ key phase last, t.memory.writes.lastIn? key phase = some last → last.IsReading) :
  (t.after.phase = some .failed ↔
    t.stored.isOverdue t.settings.phaseTimeout t.now ∨
    (¬ t.stored.isToBeDeleted ∧ ∃ exchange ∈ rest, exchange.Refuses t.stored.phase) ∨
    ∃ exchange ∈ rest, exchange.ReportsFailure t.stored.phase) ∧
  ((∃ exchange ∈ rest, exchange.Hinders t.stored.phase) →
    t.after.phase = t.stored.phase ∧
      ∃ directive memory, t.result? = some (.ok directive, memory) ∧ directive.isRequeue) ∧
  ((∃ work carried cause o, t.Works ns name actor work carried (.fail cause) o) ↔
    ∃ exchange ∈ rest, exchange.Refuses t.stored.phase ∨ exchange.Hinders t.stored.phase)
  := by
  obtain ⟨move, preempts⟩ | ⟨work, carried, decision, o, rfl, works⟩ :=
    h.preempts_or_works reaches completes working
  · refine ⟨?_, ?_, ?_⟩
    · rw [preempts.fails_iff h completes]
      constructor
      · exact .inl
      · rintro (overdue | ⟨kept, -⟩ | ⟨exchange, found, reports⟩)
        · exact overdue
        · by_contra onTime
          exact kept (preempts.isToBeDeleted onTime)
        · cases preempts.not_matters found (.inr (.inr reports))
    · rintro ⟨exchange, found, hinders⟩
      cases preempts.not_matters found (.inr (.inl hinders))
    · constructor
      · rintro ⟨_, _, _, _, works⟩
        cases preempts.preempting.symm.trans works.unpreempted
      · rintro ⟨exchange, found, answers⟩
        cases preempts.not_matters found (answers.imp_right .inl)
  · refine ⟨?_, ?_, ?_⟩
    · rw [works.fails_iff h completes working, works.makesFailure_iff working]
      have kept := Object.not_isToBeDeleted_of_unpreempted works.unpreempted
      constructor
      · rintro (⟨exchange, found, refuses⟩ | ⟨exchange, found, reports⟩)
        · exact .inr (.inl ⟨kept, exchange, List.mem_append_left _ found, refuses⟩)
        · exact .inr (.inr ⟨exchange, List.mem_append_left _ found, reports⟩)
      · rintro (overdue | ⟨-, exchange, found, refuses⟩ | ⟨exchange, found, reports⟩)
        · cases works.not_isOverdue overdue
        · exact .inl ⟨exchange, works.mem_work found (.inl refuses), refuses⟩
        · exact .inr ⟨exchange, works.mem_work found (.inr (.inr reports)), reports⟩
    · rintro ⟨exchange, found, hinders⟩
      have matters : exchange.Matters t.stored.phase := .inr (.inl hinders)
      apply works.retries_of_hinders h completes working (works.mem_work found matters) hinders
      intro move
      apply Object.exists_debounce?_of_isNear short reading.isNear
      exact fun phase last told => (written _ phase last told).isNear
    · constructor
      · rintro ⟨_, _, cause, _, works'⟩
        obtain ⟨-, -, rfl, -⟩ := works.unique works'
        obtain ⟨exchange, found, answers⟩ := (works.causes_iff working).mp ⟨cause, rfl⟩
        exact ⟨exchange, List.mem_append_left _ found, answers⟩
      · rintro ⟨exchange, found, answers⟩
        have matters : exchange.Matters t.stored.phase := answers.imp_right .inl
        obtain ⟨cause, rfl⟩ :=
          (works.causes_iff working).mpr ⟨exchange, works.mem_work found matters, answers⟩
        exact ⟨work, carried, cause, o, works⟩

/-- A turn that came to a result is not given up. -/
theorem Goes.finished (h : t.Goes ns name) {result : Except PassFailure Directive × Memory}
    (ends : t.result? = some result) :
  ¬ t.GivenUp ns name
  := by
  have takes := h.takes
  rw [ends] at takes
  exact takes.not_awaits

/-- What is sent is sent after the authentication. -/
theorem Goes.reaches_of_mem (h : t.Goes ns name) {exchange : Exchange Operation.Answer}
    (found : exchange ∈ t.course) (sends : exchange.question.isSend) :
  ∃ actor rest, t.Reaches ns name actor rest ∧ exchange ∈ rest
  := by
  obtain ⟨quiet, -⟩ | ⟨actor, rest, reaches⟩ := h.quiet_or_reaches
  · cases not_mem_of_unsent (fun exchange found => (quiet exchange found).1) sends found
  · refine ⟨actor, rest, reaches, ?_⟩
    obtain ⟨opening, course, quiet⟩ := isQuiet_of_reaches reaches
    rw [course] at found
    obtain found | found := List.mem_append.mp found
    · cases not_mem_of_unsent (fun exchange found => (quiet exchange found).1) sends found
    · exact found

/-- A project whose creation is answered so. -/
def ofAnsweredProject (response : Response) : Turn .project :=
  .ofProject 1 Run.Payments.enrolling.after response none

/-- The request is blamed. -/
def blaming : Response :=
  ⟨422, "\x7b\"title\": \"No such region\"\x7d"⟩

/-- The request is blamed for the state of a resource. -/
def blamingState : Response :=
  ⟨422, "\x7b\"title\": \"Invalid status\"\x7d"⟩

/-- A project whose creation is blamed fails, and one whose creation is blamed for the state of a
resource is created again. -/
theorem fails_on_terminal_cause_payments :
  (ofAnsweredProject blaming).Completes "shop" "payments" ∧
    (ofAnsweredProject blaming).after.phase = some .failed ∧
  (ofAnsweredProject blamingState).Completes "shop" "payments" ∧
    (ofAnsweredProject blamingState).after.phase = some .creating
  := by
  have goes (response : Response) : (ofAnsweredProject response).Goes "shop" "payments" :=
    goes_ofProject ..
  have reading : Instant.IsReading ⟨1, 0⟩ := .ofSecond (by decide)
  have completes : ∀ response ∈ [blaming, blamingState],
      (ofAnsweredProject response).Completes "shop" "payments" ∧
      (ofAnsweredProject response).stored.phase = some .creating ∧
      ∃ request actor rest, (ofAnsweredProject response).Reaches "shop" "payments" actor rest ∧
        ⟨.send request, .ok response⟩ ∈ rest := by
    have shown : ∀ response ∈ [blaming, blamingState],
        (ofAnsweredProject response).result?.isSome ∧
        (∀ exchange ∈ (ofAnsweredProject response).course, exchange.refusal? = none) ∧
        (ofAnsweredProject response).stored.phase = some .creating ∧
        (ofAnsweredProject response).sent = [(.post, "/projects")] := by
      decide +kernel
    intro response listed
    obtain ⟨returns, accepted, creating, sent⟩ := shown response listed
    obtain ⟨result, ends⟩ := Option.isSome_iff_exists.mp returns
    obtain ⟨request, answer, found, -⟩ :=
      exists_of_mem_sent (t := ofAnsweredProject response) (sent ▸ List.mem_singleton_self _)
    obtain rfl := answer_ofProject found
    exact ⟨⟨(goes response).finished ends, accepted⟩, creating, request,
      (goes response).reaches_of_mem found rfl⟩
  have told : (Problem.ofBody 422 blaming.body).notReady = false ∧
      (Problem.ofBody 422 blamingState.body).notReady := by
    decide +kernel
  obtain ⟨blamed, creating, request, actor, rest, reaches, found⟩ := completes blaming (by simp)
  obtain ⟨blamed', creating', request', actor', rest', reaches', found'⟩ :=
    completes blamingState (by simp)
  refine ⟨blamed, ?_, blamed', ?_⟩
  · obtain ⟨fails, -⟩ := (goes blaming).fails_on_terminal_cause reaches blamed
      (by simp [creating]) (by decide) reading nofun
    refine fails.mpr (.inr (.inl ⟨by decide +kernel, _, found, ?_⟩))
    exact .answered (by decide) told.1 (by simp [creating])
  · obtain ⟨-, retries, -⟩ := (goes blamingState).fails_on_terminal_cause reaches' blamed'
      (by simp [creating']) (by decide) reading nofun
    obtain ⟨same, -⟩ := retries ⟨_, found', .marked (by decide) told.2 (by simp [creating'])⟩
    rw [same, creating']

end Turn

end CloudOperator
