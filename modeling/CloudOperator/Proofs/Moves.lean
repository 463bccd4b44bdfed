import CloudOperator.Proofs.Turn

/-!
# What turns decide and store

The work of a phase leads to a decision.  The relation `Work.Leads` lists how it can come
out, by one rule for each way, and `Work.leads` says that the list is complete.

Every status that a turn stores is that of an object after a move: one that comes before
the work of the phase, or one that the decision makes.  The finalizer of the operator is
added to an object without a phase, and taken from one whose remote resource is gone.

* `Turn.Goes.writes` says that a turn leaves the status, or writes a move and remembers it.
* `Turn.Goes.status` tells what a turn makes of the status.
* `Turn.Goes.finalizers` tells what a turn makes of the finalizers.
-/

namespace CloudOperator

open Program

variable {K : Kind}

/-- A failure is tried again in the same phase, or the object is given up.  The condition does not
hold in either case. -/
theorem Move.ofFailure_cases (current : Phase) (cause : Failure) :
  (∃ message, ∃ reason ∈ ["ResourceNotReady", "DependencyNotReady", "ServerError",
      "ReconcileError"], ofFailure current cause = ⟨current, .fails, reason, message, true⟩) ∨
    ∃ message, ofFailure current cause = ⟨.failed, .fails, "ClientError", message, false⟩
  := by
  rw [ofFailure]
  split
  · split
    · exact .inl ⟨_, _, by simp, rfl⟩
    · exact .inl ⟨_, _, by simp, rfl⟩
  · exact .inr ⟨_, rfl⟩
  · split
    · exact .inl ⟨_, _, by simp, rfl⟩
    · exact .inl ⟨_, _, by simp, rfl⟩

/-- A failure keeps the phase or leads to the failed one. -/
theorem Move.phase_ofFailure (current : Phase) (cause : Failure) :
  (Move.ofFailure current cause).phase = current ∨ (Move.ofFailure current cause).phase = .failed
  := by
  obtain ⟨message, reason, -, same⟩ | ⟨message, same⟩ := ofFailure_cases current cause
  · rw [same]
    exact .inl rfl
  · rw [same]
    exact .inr rfl

/-- A failure never makes the condition hold. -/
theorem Move.status_ofFailure (current : Phase) (cause : Failure) :
  (Move.ofFailure current cause).status = .fails
  := by
  obtain ⟨message, reason, -, same⟩ | ⟨message, same⟩ := ofFailure_cases current cause
  · rw [same]
  · rw [same]

/-- A failure for a cause that is no answer of the remote API keeps the phase. -/
theorem Move.phase_ofFailure_of_isUnanswered (current : Phase) {cause : Failure}
    (unanswered : cause.IsUnanswered) :
  (Move.ofFailure current cause).phase = current
  := by
  cases cause with
  | problem p => cases unanswered
  | _ => rfl

/-- A failure that does not lead to the failed phase is tried again. -/
theorem Move.requeue_ofFailure (current : Phase) (cause : Failure)
    (retried : (Move.ofFailure current cause).phase ≠ .failed) :
  (Move.ofFailure current cause).requeue
  := by
  obtain ⟨message, reason, -, same⟩ | ⟨message, same⟩ := ofFailure_cases current cause
  · rw [same]
  · rw [same] at retried
    cases retried rfl

namespace Object

variable {o : Object K} {settings : PassSettings} {now : Instant} {move : Move}

/-- What preempts the work of an object is that it is overdue, or to be deleted. -/
theorem preempting_cases (preempting : o.preempting? settings now = some move) :
  o.isOverdue settings.phaseTimeout now ∧ move = .timedOut settings.phaseTimeout ∨
    o.isToBeDeleted ∧ move = .toBeDeleted
  := by
  rw [preempting?] at preempting
  split at preempting
  · exact .inl ⟨‹_›, (Option.some.inj preempting).symm⟩
  split at preempting
  · exact .inr ⟨‹_›, (Option.some.inj preempting).symm⟩
  · cases preempting

theorem not_isToBeDeleted_of_unpreempted (unpreempted : o.preempting? settings now = none) :
  ¬ o.isToBeDeleted
  := by
  intro due
  rw [preempting?, if_pos due] at unpreempted
  split at unpreempted
  · cases unpreempted
  · cases unpreempted

/-- A move that preempts the work of an object takes it to its deletion or its failure. -/
theorem phase_of_preempting (preempting : o.preempting? settings now = some move) :
  move.phase = .deleting ∨ move.phase = .failed
  := by
  obtain ⟨-, rfl⟩ | ⟨-, rfl⟩ := preempting_cases preempting
  · exact .inr rfl
  · exact .inl rfl

end Object

/-- A move takes note of the generation if it enters a phase that records it. -/
theorem Object.observedGeneration_moved (o : Object K) (move : Move) (now : Instant) :
  (o.moved move now).observedGeneration =
    if o.phase ≠ some move.phase ∧ move.phase.recordsGeneration then o.generation
    else o.observedGeneration
  := by
  simp [moved, CommonStatus.moved]

theorem Object.phaseStartedAt_eq (o : Object K) :
  o.phaseStartedAt = o.phaseStartTime.bind Timestamp.read
  := by
  cases h : o.status <;>
    simp [phaseStartedAt, phaseStartTime, CommonStatus.phaseStartedAt, h]

/-- A move starts its phase if it enters it, or if the phase had no start. -/
theorem Object.phaseStartTime_moved (o : Object K) (move : Move) (now : Instant) :
  (o.moved move now).phaseStartTime =
    if o.phase ≠ some move.phase ∨ o.phaseStartTime = none then some (Timestamp.seconds now)
    else o.phaseStartTime
  := by
  simp [moved, CommonStatus.moved]

/-- After a move the object tells what the move reports. -/
theorem Object.condition?_moved (o : Object K) (move : Move) (now : Instant) :
  ∃ c, (o.moved move now).status.bind (·.condition? Move.conditionType) = some c ∧
    c.status = move.status ∧ c.reason = move.reason ∧ c.message = move.message
  := Condition.find?_upsert ..

/-- The reason that the status of an object tells. -/
def Object.reason? (o : Object K) : Option String :=
  (o.status.bind (·.condition? Move.conditionType)).map (·.reason)

theorem Object.reason?_congr {o o' : Object K} (h : o.status = o'.status) :
  o.reason? = o'.reason?
  := by
  rw [reason?, h, reason?]

/-- After a move the status tells the reason of the move. -/
theorem Object.reason?_moved (o : Object K) (move : Move) (now : Instant) :
  (o.moved move now).reason? = some move.reason
  := by
  obtain ⟨c, told, -, reason, -⟩ := o.condition?_moved move now
  rw [reason?, told, Option.map_some, reason]

/-- On the course the remote API answers that it deleted the remote resource of the object,
or that there is none. -/
def Object.DeletedOn (o : Object K) (actor : Actor) (course : Course) : Prop :=
  ∃ response, ⟨.send (o.request actor .delete none), .ok response⟩ ∈ course ∧
    (response.isSuccess ∨ response.status = 404)

namespace Work

/-- The work of the phase of an object on a course leads to a decision and to an object,
which is the one in hand up to what the work records. -/
inductive Leads (o : Object K) (actor : Actor) (course : Course) : Object K → Decision → Prop
  | enrolled (phase : o.phase = none) : Leads o actor course o .enroll
  | created {report : ResourceReport} {o' : Object K} {move : Move}
      (phase : o.phase = some .creating)
      (creates : Takes (o.create actor) course (some (.ok (report, o'))))
      (settled : move = .provisioning ∨ move = .created) :
      Leads o actor course (o'.recordID report.id) (.move move)
  | polled {move : Move} (phase : o.phase = some .provisioning)
      (told : move = .provisioning ∨ move = .created ∨
        ∃ state, move = .provisioningFailed state) :
      Leads o actor course o (.move move)
  | matching (phase : o.phase = some .created) : Leads o actor course o .rest
  | drifted {drift : Drift} (phase : o.phase = some .created) :
      Leads o actor course o (.move (.drifted drift))
  | changed (phase : o.phase = some .created) (changed : o.generationChanged) :
      Leads o actor course o (.move .updating)
  | updated {o' : Object K} (phase : o.phase = some .updating)
      (updates : Takes (o.update actor o.generationChanged) course (some (.ok (), o'))) :
      Leads o actor course o' (.move .updated)
  | released (phase : o.phase = some .deleting)
      (gone : o.resourceID = "" ∨ o.DeletedOn actor course) :
      Leads o actor course o .release
  | resting (phase : o.phase = some .failed) : Leads o actor course o .rest
  | waiting {duration : Nat} (phase : o.phase = some .failed) :
      Leads o actor course o (.wait duration)
  | deleted (phase : o.phase = some .failed) (requested : o.isDeletionRequested) :
      Leads o actor course o (.move .toBeDeleted)
  | retried (phase : o.phase = some .failed) (changed : o.generationChanged)
      (kept : ¬ o.isDeletionRequested) (unnamed : o.resourceID = "") :
      Leads o actor course o (.move .retrying)
  | resumed (phase : o.phase = some .failed) (changed : o.generationChanged)
      (kept : ¬ o.isDeletionRequested) (named : o.resourceID ≠ "") :
      Leads o actor course o (.move .updating)
  | failed {o' : Object K} {phase : Phase} {cause : Failure} (current : o.phase = some phase)
      (working : phase ≠ .failed) (unanswered : phase = .created → cause.IsUnanswered)
      (rewired : o.Rewired o') :
      Leads o actor course o' (.fail cause)

variable {o o' : Object K} {actor : Actor} {course : Course} {decision : Decision}
  {settings : PassSettings} {now : Instant}

theorem leads_create (phase : o.phase = some .creating)
    (h : (create o actor).Takes course (some (decision, o'))) :
  Leads o actor course o' decision
  := by
  obtain ⟨cause, -, rfl, rfl⟩ | ⟨report, o₁, creates, rfl, rfl⟩ := takes_create h
  · exact .failed phase nofun nofun (.refl o')
  · rw [Decision.ofCreated]
    split
    · exact .created phase creates (.inl rfl)
    · exact .created phase creates (.inr rfl)

theorem leads_poll (phase : o.phase = some .provisioning)
    (h : (poll o actor).Takes course (some (decision, o'))) :
  Leads o actor course o' decision
  := by
  obtain ⟨rfl, ⟨cause, -, rfl⟩ | ⟨state?, -, rfl⟩⟩ := takes_poll h
  · exact .failed phase nofun nofun (.refl o')
  · unfold Decision.ofState
    split
    · exact .polled phase (.inl rfl)
    · split
      · exact .polled phase (.inr (.inl rfl))
      · split
        · exact .polled phase (.inr (.inr ⟨_, rfl⟩))
        · exact .polled phase (.inl rfl)

theorem leads_compare (phase : o.phase = some .created)
    (h : (compare o actor).Takes course (some (decision, o'))) :
  Leads o actor course o' decision
  := by
  obtain ⟨rfl, ⟨cause, rfl, unanswered⟩ | ⟨drift, rfl⟩ | rfl⟩ := takes_compare h
  · exact .failed phase nofun (fun _ => unanswered) (.refl o')
  · exact .drifted phase
  · rw [Object.decideUnchanged]
    split
    · exact .changed phase ‹_›
    · exact .matching phase

theorem leads_update (phase : o.phase = some .updating)
    (h : (update o actor).Takes course (some (decision, o'))) :
  Leads o actor course o' decision
  := by
  obtain ⟨result, updates, rfl⟩ := takes_update h
  rcases result with cause | _
  · have rewired := updates.ends (o.ends_update ..)
    exact .failed phase nofun nofun rewired
  · exact .updated phase updates

/-- A deletion is as good as done if it succeeds or finds nothing. -/
theorem ofDeletion_cases (answer : Except String Response) :
  (Decision.ofDeletion ((Request.outcome answer).map fun _ => ()) = .release ∧
    ∃ response, answer = .ok response ∧ (response.isSuccess ∨ response.status = 404)) ∨
  ∃ cause, Decision.ofDeletion ((Request.outcome answer).map fun _ => ()) = .fail cause
  := by
  rcases answer with detail | response
  · exact .inr ⟨_, rfl⟩
  rw [Request.outcome]
  split
  · exact .inl ⟨rfl, response, rfl, .inl ‹_›⟩
  · by_cases gone : response.status = 404
    · refine .inl ⟨?_, response, rfl, .inr gone⟩
      rw [gone]
      rfl
    · refine .inr ⟨.problem (.ofBody response.status response.body), ?_⟩
      simp [Except.map, Decision.ofDeletion, Failure.isNotFound, Failure.problem?,
        Problem.isNotFound, Problem.ofBody, gone]

theorem leads_delete (phase : o.phase = some .deleting)
    (h : (delete o actor).Takes course (some (decision, o'))) :
  Leads o actor course o' decision
  := by
  obtain ⟨rfl, ⟨unnamed, rfl⟩ | ⟨answer, found, rfl⟩⟩ := takes_delete h
  · exact .released phase (.inl unnamed)
  · obtain ⟨same, response, rfl, gone⟩ | ⟨cause, same⟩ := ofDeletion_cases answer
    · rw [same]
      exact .released phase (.inr ⟨response, found, gone⟩)
    · rw [same]
      exact .failed phase nofun nofun (.refl o')

theorem leads_failed (phase : o.phase = some .failed)
    (h : (ofPhase (some .failed) o actor settings now).Takes course (some (decision, o'))) :
  Leads o actor course o' decision
  := by
  obtain ⟨rfl, decided⟩ := takes_failed h
  rw [Object.decideFailed?] at decided
  split at decided
  · have requested : o'.isDeletionRequested := ‹_›
    rw [Object.decideFailedDeletion?] at decided
    split at decided
    · obtain rfl := Option.some.inj decided
      exact .deleted phase requested
    · obtain ⟨due, -, rfl⟩ := Option.map_eq_some_iff.mp decided
      split
      · exact .waiting phase
      · exact .deleted phase requested
  · have kept : ¬ o'.isDeletionRequested := ‹_›
    split at decided
    · obtain rfl := Option.some.inj decided
      exact .resting phase
    have changed : o'.generationChanged := Classical.not_not.mp ‹_›
    split at decided
    · obtain rfl := Option.some.inj decided
      exact .retried phase changed kept ‹_›
    · obtain rfl := Option.some.inj decided
      exact .resumed phase changed kept ‹_›

/-- The work of a phase comes out as the list says. -/
theorem leads (h : (ofPhase o.phase o actor settings now).Takes course (some (decision, o'))) :
  Leads o actor course o' decision
  := by
  rcases current : o.phase with _ | phase
  · rw [current] at h
    obtain ⟨rfl, ⟨⟩⟩ := takes_done.mp h
    exact .enrolled current
  · rw [current] at h
    cases phase with
    | creating => exact leads_create current h
    | provisioning => exact leads_poll current h
    | created => exact leads_compare current h
    | updating => exact leads_update current h
    | deleting => exact leads_delete current h
    | failed => exact leads_failed current h

/-! ## What the work keeps -/

/-- Only a creation changes which remote resource an object has. -/
theorem Leads.rewired (h : Leads o actor course o' decision) :
  (∃ report o₁ move, o.phase = some .creating ∧
      Takes (o.create actor) course (some (.ok (report, o₁))) ∧ o' = o₁.recordID report.id ∧
      decision = .move move ∧ (move = .provisioning ∨ move = .created)) ∨
    o.Rewired o'
  := by
  cases h with
  | created phase creates settled => exact .inl ⟨_, _, _, phase, creates, rfl, rfl, settled⟩
  | updated _ updates => exact .inr (updates.ends (o.ends_update ..))
  | failed _ _ _ rewired => exact .inr rewired
  | _ => exact .inr (.refl o)

/-- The work keeps what it does not record of the remote resource. -/
theorem Leads.keeps (h : Leads o actor course o' decision) :
  o.Keeps o'
  := by
  obtain ⟨report, o₁, -, -, creates, rfl, -⟩ | rewired := h.rewired
  · obtain ⟨links, same⟩ := creates.ends (o.ends_create actor)
    dsimp only at same
    rw [same]
    refine ⟨o.metadata_recordLinks links, report.id, ?_⟩
    rw [Object.common_recordID, o.common_recordLinks]
  · apply rewired.keeps

end Work

namespace Turn

variable {ns name : String} {t : Turn K}

/-! ## The parts of a turn -/

/-- What comes before the decision of a turn is carried out writes nothing. -/
theorem Works.split {actor : Actor} {work carried : Course} {decision : Decision}
    {o : Object K} (h : t.Works ns name actor work carried decision o) :
  ∃ opening, t.course = (opening ++ work) ++ carried ∧
    (∀ exchange ∈ opening, exchange.question.isQuiet) ∧
    ∀ exchange ∈ opening ++ work, exchange.question.isWrite = false
  := by
  obtain ⟨opening, course, quiet⟩ := isQuiet_of_reaches h.reaches
  rw [← List.append_assoc] at course
  refine ⟨opening, course, quiet, List.forall_mem_append.mpr ⟨?_, ?_⟩⟩
  · exact fun exchange found => (quiet exchange found).2
  · intro exchange found
    have only := h.works.asked (Work.asks_ofPhase ..) exchange found
    apply Operation.isWrite_of_sendsOnly only

/-- What is no request to the remote API is not one that is sent. -/
theorem not_mem_of_unsent {exchange : Exchange Operation.Answer} {course : Course}
    (unsent : ∀ exchange ∈ course, exchange.question.isSend = false)
    (sends : exchange.question.isSend) :
  exchange ∉ course
  := by
  intro found
  rw [unsent exchange found] at sends
  cases sends

/-- Whatever a turn that does the work of the phase sends is sent by that work. -/
theorem Works.sent {actor : Actor} {work carried : Course} {decision : Decision} {o : Object K}
    (h : t.Works ns name actor work carried decision o) {exchange : Exchange Operation.Answer}
    (found : exchange ∈ t.course) (sends : exchange.question.isSend) :
  exchange ∈ work
  := by
  obtain ⟨opening, course, quiet, -⟩ := h.split
  obtain ⟨result?, carries⟩ := h.carries
  have unsent := carries.asked ((Task.asks_carryOut ..).mono fun _ => Operation.isSend_of_isLocal)
  rw [course] at found
  obtain found | found := List.mem_append.mp found
  · obtain found | found := List.mem_append.mp found
    · cases not_mem_of_unsent (fun exchange found => (quiet exchange found).1) sends found
    · apply found
  · cases not_mem_of_unsent unsent sends found

/-- Whatever a turn sends is sent by the work of the phase. -/
theorem Goes.sent (h : t.Goes ns name) {exchange : Exchange Operation.Answer}
    (found : exchange ∈ t.course) (sends : exchange.question.isSend) :
  t.stored.preempting? t.settings t.now = none ∧ ∃ actor work result?, exchange ∈ work ∧
    (Work.ofPhase t.stored.phase t.stored actor t.settings t.now).Takes work result?
  := by
  obtain quiet | ⟨actor, ⟨carried, move, preempts⟩ | ⟨work, stalls⟩ |
    ⟨work, carried, decision, o, works⟩⟩ := h.cases
  · cases not_mem_of_unsent (fun exchange found => (quiet exchange found).1) sends found
  · obtain ⟨opening, course, quiet⟩ := isQuiet_of_reaches preempts.reaches
    obtain ⟨result?, carries⟩ := preempts.carries
    have unsent := carries.asked ((Task.asks_move ..).mono fun _ => Operation.isSend_of_isLocal)
    rw [course] at found
    obtain found | found := List.mem_append.mp found
    · cases not_mem_of_unsent (fun exchange found => (quiet exchange found).1) sends found
    · cases not_mem_of_unsent unsent sends found
  · obtain ⟨opening, course, quiet⟩ := isQuiet_of_reaches stalls.reaches
    rw [course] at found
    obtain found | found := List.mem_append.mp found
    · cases not_mem_of_unsent (fun exchange found => (quiet exchange found).1) sends found
    · exact ⟨stalls.unpreempted, actor, work, none, found, stalls.stalls⟩
  · exact ⟨works.unpreempted, actor, work, _, works.sent found sends, works.works⟩

/-! ## What a turn stores -/

/-- The turn makes a move of an object: it does so in place of the work, or the decision
that the work leads to makes the move. -/
inductive Moves (t : Turn K) (ns name : String) : Object K → Move → Prop
  | preempts {actor : Actor} {carried : Course} {move : Move}
      (preempts : t.Preempts ns name actor carried move) : Moves t ns name t.stored move
  | works {actor : Actor} {work carried : Course} {decision : Decision} {o : Object K}
      {move : Move} (works : t.Works ns name actor work carried decision o)
      (leads : Work.Leads t.stored actor work o decision)
      (makes : decision.move? o = some move) : Moves t ns name o move

/-- The object of a move is the stored one up to what the work records. -/
theorem Moves.keeps {o : Object K} {move : Move} (h : t.Moves ns name o move) :
  t.stored.Keeps o
  := by
  cases h with
  | preempts _ => exact (Object.Rewired.refl t.stored).keeps
  | works _ leads _ => exact leads.keeps

/-- After a move an object is in the phase of the move; its generation is taken note of if
the phase is entered and records it. -/
theorem Moves.shows {o : Object K} {move : Move} (h : t.Moves ns name o move)
    (after : t.after.status = (o.moved move t.now).status) :
  t.after.phase = some move.phase ∧
    t.after.observedGeneration =
      if t.stored.phase ≠ some move.phase ∧ move.phase.recordsGeneration then t.stored.generation
      else t.stored.observedGeneration
  := by
  have keeps := h.keeps
  constructor
  · rw [Object.phase_congr after, Object.phase_moved]
  · rw [Object.observedGeneration_congr after, Object.observedGeneration_moved, keeps.phase,
      keeps.observedGeneration, keeps.generation]

/-- After a move the phase started when it was entered, or when its start was missing. -/
theorem Moves.starts {o : Object K} {move : Move} (h : t.Moves ns name o move)
    (after : t.after.status = (o.moved move t.now).status) :
  t.after.phaseStartTime =
    if t.stored.phase ≠ some move.phase ∨ t.stored.phaseStartTime = none then
      some (Timestamp.seconds t.now)
    else t.stored.phaseStartTime
  := by
  have keeps := h.keeps
  rw [Object.phaseStartTime_congr after, Object.phaseStartTime_moved, keeps.phase,
    keeps.phaseStartTime]

/-- Whatever a turn writes is written at its end, by a move in place of the work, or by
the decision that the work leads to. -/
theorem Goes.written (h : t.Goes ns name) :
  ∃ first carried, t.course = first ++ carried ∧
    (∀ exchange ∈ first, exchange.question.isWrite = false) ∧
    (carried = [] ∨
      (∃ actor move, t.Preempts ns name actor carried move) ∨
      ∃ actor work decision o, t.Works ns name actor work carried decision o)
  := by
  obtain quiet | ⟨actor, ⟨carried, move, preempts⟩ | ⟨work, stalls⟩ |
    ⟨work, carried, decision, o, works⟩⟩ := h.cases
  · refine ⟨t.course, [], (List.append_nil _).symm, ?_, .inl rfl⟩
    exact fun exchange found => (quiet exchange found).2
  · obtain ⟨opening, course, quiet⟩ := isQuiet_of_reaches preempts.reaches
    refine ⟨opening, carried, course, ?_, .inr (.inl ⟨actor, move, preempts⟩)⟩
    exact fun exchange found => (quiet exchange found).2
  · obtain ⟨opening, course, quiet⟩ := isQuiet_of_reaches stalls.reaches
    refine ⟨t.course, [], (List.append_nil _).symm, ?_, .inl rfl⟩
    rw [course, List.forall_mem_append]
    constructor
    · exact fun exchange found => (quiet exchange found).2
    · intro exchange found
      have only := stalls.stalls.asked (Work.asks_ofPhase ..) exchange found
      apply Operation.isWrite_of_sendsOnly only
  · obtain ⟨opening, course, -, unwritten⟩ := works.split
    exact ⟨_, carried, course, unwritten, .inr (.inr ⟨actor, work, decision, o, works⟩)⟩

/-- The turn completes the deletion of the object. -/
def CompletesDeletion (t : Turn K) (ns name : String) : Prop :=
  ∃ actor work carried o memory, t.Works ns name actor work carried .release o ∧
    t.result? = some (.ok .done, memory)

/-- The turn makes a move of an object, and the move is written: it does not have to wait, the
status is that of the moved object, and the write is remembered. -/
structure Writes (t : Turn K) (ns name : String) (o : Object K) (move : Move) : Prop where
  moves : t.Moves ns name o move
  due : o.debounce? t.memory.writes t.settings.requeueInterval move t.now = some none
  stores : t.StoresStatus
  status : t.after.status = (o.moved move t.now).status
  recorded : ∀ result memory, t.result? = some (result, memory) →
    memory.writes = t.memory.writes.record o.key move.phase t.now

/-- The turn leaves the status, and what is remembered of the writes unless there is no object
any more. -/
structure Leaves (t : Turn K) (ns name : String) : Prop where
  unstored : ¬ t.StoresStatus
  status : t.after.status = t.stored.status
  remembers : ∀ result memory, t.result? = some (result, memory) →
    memory.writes = t.memory.writes ∨ t.FindsMissing ns name ∨ t.CompletesDeletion ns name

/-- If a move is written at the end of the course of a turn then the turn writes it. -/
theorem Writes.of_carried {first carried : Course} {o : Object K} {move : Move}
    {tokens : TokenCache} {result? : Option (Task.Outcome K)}
    (course : t.course = first ++ carried) (moves : t.Moves ns name o move)
    (writes : Task.Writes ⟨o, t.memory.writes⟩ t.settings move t.now carried result?)
    (ends : t.result? = result?.map fun (result, t') => (result, ⟨tokens, t'.history⟩)) :
  t.Writes ns name o move
  where
  moves := moves
  due := writes.due
  stores := by
    obtain ⟨exchange, found, stores⟩ := writes.stores
    rw [StoresStatus, course]
    exact ⟨exchange, List.mem_append_right _ found, stores⟩
  status := by
    rw [Turn.after, course, Object.after_append]
    apply writes.status
  recorded result memory same := by
    rw [ends] at same
    obtain ⟨⟨_, t'⟩, comes, ⟨⟩⟩ := Option.map_eq_some_iff.mp same
    apply writes.recorded _ _ comes

/-- If nothing on the course of a turn stores a status then the turn leaves it. -/
theorem Leaves.of_unstored (unstored : ∀ exchange ∈ t.course, exchange.storesStatus = false)
    (remembers : ∀ result memory, t.result? = some (result, memory) →
      memory.writes = t.memory.writes ∨ t.FindsMissing ns name ∨ t.CompletesDeletion ns name) :
  t.Leaves ns name
  where
  unstored := by
    rintro ⟨exchange, found, stores⟩
    rw [unstored exchange found] at stores
    cases stores
  status := Object.status_after unstored t.stored
  remembers := remembers

/-- What a turn remembers is what the task remembers that it ends with. -/
theorem writes_eq_of_remembers {history : WriteHistory} {o : Object K} {tokens : TokenCache}
    {result? : Option (Task.Outcome K)} (remembers : Task.Remembers ⟨o, history⟩ result?)
    (ends : t.result? = result?.map fun (result, t') => (result, ⟨tokens, t'.history⟩))
    (result : Except PassFailure Directive) (memory : Memory)
    (same : t.result? = some (result, memory)) :
  memory.writes = history
  := by
  rw [ends] at same
  obtain ⟨⟨_, t'⟩, comes, ⟨⟩⟩ := Option.map_eq_some_iff.mp same
  apply remembers _ _ comes

theorem unstored_append {first carried : Course}
    (unwritten : ∀ exchange ∈ first, exchange.question.isWrite = false)
    (unstored : ∀ exchange ∈ carried, exchange.storesStatus = false) :
  ∀ exchange ∈ first ++ carried, exchange.storesStatus = false
  := by
  refine List.forall_mem_append.mpr ⟨fun exchange found => ?_, unstored⟩
  apply (Exchange.unstored_of_isWrite (unwritten exchange found)).1

/-- A turn leaves the status, or writes a move. -/
theorem Goes.writes (h : t.Goes ns name) :
  t.Leaves ns name ∨ ∃ o move, t.Writes ns name o move
  := by
  obtain ⟨quiet, remembers⟩ | ⟨actor, rest, reaches⟩ := h.quiet_or_reaches
  · left
    apply Leaves.of_unstored
    · intro exchange found
      apply (Exchange.unstored_of_isWrite (quiet exchange found).2).1
    · exact fun result memory same => (remembers result memory same).imp_right .inl
  obtain ⟨tokens, result?, proceeds, ends, -⟩ := h.proceeds reaches
  obtain ⟨opening, course, quiet⟩ := isQuiet_of_reaches reaches
  have opened : ∀ exchange ∈ opening, exchange.question.isWrite = false :=
    fun exchange found => (quiet exchange found).2
  obtain ⟨move, preempting, carries⟩ |
      ⟨unpreempted, ⟨stalls, rfl⟩ | ⟨decision, o, work, carried, rfl, works, carries⟩⟩ :=
    Task.takes_proceed proceeds
  · obtain ⟨none, remembers⟩ | writes := Task.writes_move carries
    · left
      apply Leaves.of_unstored (course ▸ unstored_append opened none)
      exact fun result memory same => .inl (writes_eq_of_remembers remembers ends _ _ same)
    · have preempts : t.Preempts ns name actor rest move :=
        ⟨reaches, preempting, result?, carries⟩
      exact .inr ⟨t.stored, move, .of_carried course (.preempts preempts) writes ends⟩
  · left
    have worked := stalls.asked (Work.asks_ofPhase ..)
    apply Leaves.of_unstored
    · rw [course]
      refine unstored_append opened fun exchange found => ?_
      have only := Operation.isWrite_of_sendsOnly (worked exchange found)
      apply (Exchange.unstored_of_isWrite only).1
    · rw [ends]
      simp
  · have does : t.Works ns name actor work carried decision o :=
      ⟨reaches, unpreempted, works, result?, carries⟩
    obtain ⟨opening, course, -, unwritten⟩ := does.split
    obtain ⟨none, remembers⟩ | ⟨move, makes, writes⟩ := Task.writes_carryOut carries
    · left
      apply Leaves.of_unstored (course ▸ unstored_append unwritten none)
      intro result memory same
      obtain remembers | ⟨rfl, t', rfl⟩ := remembers
      · exact .inl (writes_eq_of_remembers remembers ends _ _ same)
      · exact .inr (.inr ⟨actor, work, carried, o, _, does, ends⟩)
    · exact .inr ⟨o, move, .of_carried course (.works does (Work.leads works) makes) writes ends⟩

/-- A turn leaves the status, or stores the status of an object after a move that the
turn makes. -/
theorem Goes.status (h : t.Goes ns name) :
  ¬ t.StoresStatus ∧ t.after.status = t.stored.status ∨
    t.StoresStatus ∧ ∃ o move, t.Moves ns name o move ∧
      t.after.status = (o.moved move t.now).status
  := by
  obtain leaves | ⟨o, move, writes⟩ := h.writes
  · exact .inl ⟨leaves.unstored, leaves.status⟩
  · exact .inr ⟨writes.stores, o, move, writes.moves, writes.status⟩

/-- A turn leaves the finalizers, or adds that of the operator to an object without a
phase that does not have it, or takes it from an object whose remote resource is gone. -/
theorem Goes.finalizers (h : t.Goes ns name) :
  t.after.metadata.finalizerList = t.stored.metadata.finalizerList ∨
    t.stored.phase = none ∧ t.stored.preempting? t.settings t.now = none ∧
      ¬ t.stored.hasFinalizer ∧
      t.after.metadata.finalizerList = t.stored.metadata.finalizerList ++ [K.finalizer] ∨
    t.stored.phase = some .deleting ∧
      (t.stored.resourceID = "" ∨ ∃ actor, t.stored.DeletedOn actor t.course) ∧
      t.after.metadata.finalizerList = t.stored.metadata.finalizerList.filter (· ≠ K.finalizer)
  := by
  obtain ⟨first, carried, course, unwritten, ends⟩ := h.written
  have kept (unstored : ∀ exchange ∈ carried, exchange.storesFinalizers = false) :
      t.after.metadata.finalizerList = t.stored.metadata.finalizerList := by
    apply Object.finalizerList_after
    rw [course, List.forall_mem_append]
    constructor
    · exact fun exchange found => (Exchange.unstored_of_isWrite (unwritten exchange found)).2
    · apply unstored
  have after : t.after = (t.stored.after first).after carried := by
    rw [Turn.after, course, Object.after_append]
  obtain rfl | ⟨actor, move, preempts⟩ | ⟨actor, work, decision, o, works⟩ := ends
  · exact .inl (kept (by simp))
  · obtain ⟨result?, carries⟩ := preempts.carries
    exact .inl (kept (Task.unstored_finalizers_move carries))
  · obtain ⟨result?, carries⟩ := works.carries
    have leads := Work.leads works.works
    obtain none | ⟨rfl, lacks, added⟩ | ⟨rfl, removed⟩ := Task.finalizers_carryOut carries
    · exact .inl (kept none)
    · obtain ⟨phase⟩ := leads
      refine .inr (.inl ⟨phase, works.unpreempted, lacks, ?_⟩)
      rw [after]
      apply added
    · cases leads with
      | released phase gone =>
        refine .inr (.inr ⟨phase, ?_, ?_⟩)
        · obtain unnamed | ⟨response, found, done⟩ := gone
          · exact .inl unnamed
          · refine .inr ⟨actor, response, ?_, done⟩
            obtain ⟨opening, course, -⟩ := works.split
            rw [course]
            apply List.mem_append_left _ (List.mem_append_right _ found)
        · rw [after]
          apply removed

end Turn

end CloudOperator
