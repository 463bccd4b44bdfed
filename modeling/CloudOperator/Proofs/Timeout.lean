import CloudOperator.Proofs.PhaseNotes
import CloudOperator.Proofs.Elapsed
import CloudOperator.Proofs.Timestamp

/-!
# The timeout of phases

An object may stay in a transitioning phase for the phase timeout, and no longer.  The time is
counted from the turn that brought the object into the phase (`Turn.enteredAt?`), whatever was
tried since then: `Run.dated` says that the status tells that time, to the second, and that it
can be read.  A turn that finds the object overdue sends nothing and writes its failure, also
where the object is to be deleted, and no other turn writes that reason
(`Run.times_out_when_overdue`).

What is compared is `Instant.since`, the span that the operator computes.  It is the time that
passed unless one of the two instants lies in a leap second (`Instant.elapsedSince_eq_since`).
-/

namespace CloudOperator

open Program

variable {K : Kind} {ns name : String}

/-! ## The reason that a status tells -/

/-- No failure of the work is told as a timeout. -/
theorem Move.reason_ofFailure (current : Phase) (cause : Failure) :
  (Move.ofFailure current cause).reason ≠ "ReconciliationTimeout"
  := by
  obtain ⟨message, reason, told, same⟩ | ⟨message, same⟩ := ofFailure_cases current cause
  · rw [same]
    rintro rfl
    simp at told
  · rw [same]
    simp

/-- The only drift that is found is that of the data volumes. -/
theorem Object.ends_drift?_volumes (o : Object K) (actor : Actor) :
  Ends (Meets (fun drift? => ∀ drift, drift? = some drift → drift = volumeDrift) fun _ => True)
    (o.drift? actor)
  := by
  cases K with
  | cloudServer =>
    apply ends_attempt_bind
    apply ends_of_forall
    rintro (cause | change)
    · trivial
    · dsimp only [Meets]
      split
      · rintro drift ⟨⟩
      · rintro drift ⟨⟩
        rfl
  | _ => rintro drift ⟨⟩

/-- No comparison with the remote resource is told as a timeout. -/
theorem Work.ends_compare (o : Object K) (actor : Actor) :
  (compare o actor).Ends fun result =>
    ∀ move, result.1 = .move move → move.reason ≠ "ReconciliationTimeout"
  := by
  apply ends_bind
  apply (o.ends_drift?_volumes actor).mono
  rintro (cause | drift?) drifts move makes
  · cases makes
  cases drift? with
  | some drift =>
    obtain rfl := drifts drift rfl
    cases makes
    simp [Move.drifted, Object.volumeDrift]
  | none =>
    simp only [Object.decideCreated, Object.decideUnchanged] at makes
    split at makes
    · cases makes
      simp [Move.updating]
    · cases makes

/-! ## Objects that are overdue -/

namespace Object

variable {o : Object K}

/-- An object is overdue if more than the timeout has passed since a transitioning phase
started. -/
theorem isOverdue_iff {timeout : Nat} {now start : Instant}
    (started : o.phaseStartedAt = some start) (reading : now.IsReading)
    (reading' : start.IsReading) :
  o.isOverdue timeout now ↔
    o.phase ∈ [some .creating, some .provisioning, some .updating] ∧
      (timeout : Int) < now.since start
  := by
  have transitioning : o.phase.any Phase.isTransitioning ↔
      o.phase ∈ [some .creating, some .provisioning, some .updating] := by
    rcases o.phase with _ | phase
    · simp
    · cases phase <;> simp [Phase.isTransitioning]
  have short := reading.isNear.since_lt reading'.isNear
  have span : spanOfDuration timeout < now.since start ↔ (timeout : Int) < now.since start := by
    rw [spanOfDuration, longestSpan, nanosPerMilli]
    omega
  rw [isOverdue, started, Bool.and_eq_true, transitioning, Option.any_some, decide_eq_true_iff,
    span]

end Object

namespace Turn

variable {t : Turn K} {o : Object K} {move : Move}

/-- A move that is told as a timeout is that of an object that is overdue. -/
theorem Moves.isOverdue (h : t.Moves ns name o move)
    (reason : move.reason = "ReconciliationTimeout") :
  t.stored.isOverdue t.settings.phaseTimeout t.now
  := by
  cases h with
  | preempts preempts =>
    obtain ⟨overdue, -⟩ | ⟨-, rfl⟩ := Object.preempting_cases preempts.preempting
    · apply overdue
    · simp [Move.toBeDeleted] at reason
  | works works leads makes =>
    exfalso
    cases leads with
    | enrolled =>
      cases makes
      simp [Move.initialized] at reason
    | created _ _ settled =>
      cases makes
      obtain rfl | rfl := settled
      · simp [Move.provisioning] at reason
      · simp [Move.created] at reason
    | polled _ told =>
      cases makes
      obtain rfl | rfl | ⟨state, rfl⟩ := told
      · simp [Move.provisioning] at reason
      · simp [Move.created] at reason
      · simp [Move.provisioningFailed] at reason
    | drifted phase =>
      cases makes
      have compares := works.works
      rw [phase] at compares
      apply compares.ends (Work.ends_compare ..) _ rfl reason
    | changed | resumed =>
      cases makes
      simp [Move.updating] at reason
    | updated =>
      cases makes
      simp [Move.updated] at reason
    | deleted =>
      cases makes
      simp [Move.toBeDeleted] at reason
    | retried =>
      cases makes
      simp [Move.retrying] at reason
    | failed =>
      cases makes
      cases Move.reason_ofFailure _ _ reason
    | matching | released | resting | waiting => cases makes

/-- The turn sends nothing, and writes that the object failed for the timeout. -/
structure TimesOut (t : Turn K) (ns name : String) : Prop where
  unsent : ∀ exchange ∈ t.course, exchange.question.isSend = false
  asked : t.GivenUp ns name ∨ ∃ answer, ⟨.writeStatus K
    (t.stored.moved (.timedOut t.settings.phaseTimeout) t.now), answer⟩ ∈ t.course
  stored : t.StoresStatus →
    t.after.phase = some .failed ∧ t.after.reason? = some "ReconciliationTimeout"

/-- A turn that reaches an object that is overdue writes its failure. -/
theorem Goes.timesOut (h : t.Goes ns name) {actor : Actor} {rest : Course}
    (reaches : t.Reaches ns name actor rest)
    (overdue : t.stored.isOverdue t.settings.phaseTimeout t.now) :
  t.TimesOut ns name
  := by
  have preempting : t.stored.preempting? t.settings t.now
      = some (.timedOut t.settings.phaseTimeout) := by
    rw [Object.preempting?, if_pos overdue]
  obtain ⟨tokens, result?, proceeds, ends, waits⟩ := h.proceeds reaches
  rw [Task.proceed_of_preempting preempting] at proceeds waits
  obtain ⟨opening, course, quiet⟩ := isQuiet_of_reaches reaches
  constructor
  · rw [course]
    refine List.forall_mem_append.mpr ⟨fun exchange found => (quiet exchange found).1, ?_⟩
    exact proceeds.asked ((Task.asks_move ..).mono fun _ => Operation.isSend_of_isLocal)
  · have due : t.stored.debounce? t.memory.writes t.settings.requeueInterval
        (.timedOut t.settings.phaseTimeout) t.now = some none := by
      simp [Object.debounce?, Move.timedOut]
    obtain awaits | ⟨answer, last, rfl⟩ := Task.asked_move due proceeds
    · exact .inl (waits awaits)
    · right
      rw [course]
      exact ⟨answer, List.mem_append_right _ List.mem_cons_self⟩
  · intro stores
    obtain leaves | ⟨o, move, writes⟩ := h.writes
    · cases leaves.unstored stores
    rw [Object.phase_congr writes.status, Object.reason?_congr writes.status,
      Object.phase_moved, Object.reason?_moved]
    cases writes.moves with
    | preempts preempts =>
      cases preempting.symm.trans preempts.preempting
      exact ⟨rfl, rfl⟩
    | works works => cases preempting.symm.trans works.unpreempted

theorem Goes.reaches_of_storesStatus (h : t.Goes ns name) (stores : t.StoresStatus) :
  ∃ actor rest, t.Reaches ns name actor rest
  := by
  obtain ⟨quiet, -⟩ | reaches := h.quiet_or_reaches
  · obtain ⟨exchange, found, stored⟩ := stores
    rw [(Exchange.unstored_of_isWrite (quiet exchange found).2).1] at stored
    cases stored
  · apply reaches

/-- The time of the last turn that took the object to another phase. -/
def enteredAt? : List (Turn K) → Option Instant
  | [] => none
  | t :: turns => if t.after.phase ≠ t.stored.phase then some t.now else enteredAt? turns

theorem exists_of_enteredAt? {turns : List (Turn K)} {entry : Instant}
    (h : enteredAt? turns = some entry) :
  ∃ u ∈ turns, u.now = entry
  := by
  induction turns with
  | nil => cases h
  | cons t turns ih =>
    rw [enteredAt?] at h
    split at h
    · exact ⟨t, List.mem_cons_self, Option.some.inj h⟩
    · obtain ⟨u, found, same⟩ := ih h
      exact ⟨u, List.mem_cons_of_mem _ found, same⟩

end Turn

/-- The status tells the time at which the last turn took the object to its phase. -/
structure Dated (turns : List (Turn K)) (o : Object K) : Prop where
  phaseStartTime : o.phaseStartTime = (Turn.enteredAt? turns).map Timestamp.seconds
  entered : o.phase ≠ none → Turn.enteredAt? turns ≠ none

theorem Dated.turned {turns : List (Turn K)} {t : Turn K} (h : Dated turns t.stored)
    (goes : t.Goes ns name) :
  Dated (t :: turns) t.after
  := by
  have notes := goes.notesPhase
  by_cases stays : t.after.phase = t.stored.phase
  · have same : Turn.enteredAt? (t :: turns) = Turn.enteredAt? turns := by
      simp [Turn.enteredAt?, stays]
    constructor
    · rw [notes.phaseStartTime, same, if_neg]
      · apply h.phaseStartTime
      -- a phase that is stored again has a start already
      rintro (moved | ⟨missing, stores⟩)
      · apply moved stays
      obtain ⟨unstored, -⟩ | ⟨-, o, move, moves, after⟩ := goes.status
      · apply unstored stores
      · apply h.entered
        · rw [← stays, (moves.shows after).1]
          simp
        · rw [h.phaseStartTime] at missing
          apply Option.map_eq_none_iff.mp missing
    · rw [same, stays]
      apply h.entered
  · have same : Turn.enteredAt? (t :: turns) = some t.now := by
      simp [Turn.enteredAt?, stays]
    constructor
    · rw [notes.phaseStartTime, same, if_pos (.inl stays)]
      rfl
    · simp [same]

namespace Run

variable {initial o : Object K} {turns : List (Turn K)} {t : Turn K}

theorem dated (run : Run Object.StatusKept ns name initial turns o)
    (fresh : initial.status = none) :
  Dated turns o
  := by
  induction run with
  | start => exact ⟨by simp [Object.phaseStartTime, fresh, Turn.enteredAt?],
      by simp [Object.phase, fresh]⟩
  | edited _ edit ih =>
    constructor
    · rw [Object.phaseStartTime_congr edit]
      apply ih.phaseStartTime
    · rw [Object.phase_congr edit]
      apply ih.entered
  | turned _ goes ih => exact ih.turned goes

/-- The start of a phase is read as the second of the turn that entered it. -/
theorem phaseStartedAt (run : Run Object.StatusKept ns name initial turns o)
    (fresh : initial.status = none) (readings : ∀ u ∈ turns, u.now.IsReading)
    (entered : o.phase ≠ none) :
  ∃ entry, Turn.enteredAt? turns = some entry ∧ entry.IsReading ∧
    o.phaseStartedAt = some entry.startOfSecond
  := by
  have dated := run.dated fresh
  obtain ⟨entry, last⟩ := Option.ne_none_iff_exists'.mp (dated.entered entered)
  obtain ⟨u, found, rfl⟩ := Turn.exists_of_enteredAt? last
  refine ⟨u.now, last, readings u found, ?_⟩
  rw [Object.phaseStartedAt_eq, dated.phaseStartTime, last, Option.map_some, Option.bind_some,
    Timestamp.read_seconds (readings u found)]

/-- An object in a transitioning phase is overdue once more than the timeout has passed since
the turn that entered it. -/
theorem isOverdue_iff (run : Run Object.StatusKept ns name initial turns o)
    (fresh : initial.status = none) (readings : ∀ u ∈ turns, u.now.IsReading) {timeout : Nat}
    {now : Instant} (reading : now.IsReading) :
  o.isOverdue timeout now ↔
    o.phase ∈ [some .creating, some .provisioning, some .updating] ∧
      ∃ start, o.phaseStartedAt = some start ∧ (timeout : Int) < now.since start
  := by
  by_cases entered : o.phase = none
  · simp [Object.isOverdue, entered]
  obtain ⟨entry, -, reading', started⟩ := run.phaseStartedAt fresh readings entered
  rw [Object.isOverdue_iff started reading reading'.startOfSecond, started]
  simp

/-- A turn that finds an object in a transitioning phase for longer than the timeout sends
nothing, and writes that the object failed for it.  No other turn writes so. -/
theorem times_out_when_overdue (run : Run Object.StatusKept ns name initial turns t.stored)
    (fresh : initial.status = none) (goes : t.Goes ns name)
    (readings : ∀ u ∈ t :: turns, u.now.IsReading) :
  (t.stored.phase ∈ [some .creating, some .provisioning, some .updating] →
    ∃ entry, Turn.enteredAt? turns = some entry ∧
      t.stored.phaseStartedAt = some entry.startOfSecond ∧
      ((t.settings.phaseTimeout : Int) < t.now.since entry.startOfSecond →
        ∀ actor rest, t.Reaches ns name actor rest → t.TimesOut ns name)) ∧
    (t.StoresStatus → t.after.reason? = some "ReconciliationTimeout" →
      t.stored.phase ∈ [some .creating, some .provisioning, some .updating] ∧
        ∃ start, t.stored.phaseStartedAt = some start ∧
          (t.settings.phaseTimeout : Int) < t.now.since start)
  := by
  obtain ⟨reading, earlier⟩ := List.forall_mem_cons.mp readings
  have overdue : t.stored.isOverdue t.settings.phaseTimeout t.now ↔ _ :=
    run.isOverdue_iff fresh earlier reading
  rw [← overdue]
  constructor
  · intro transitioning
    have entered : t.stored.phase ≠ none := by
      intro none
      simp [none] at transitioning
    obtain ⟨entry, last, -, started⟩ := run.phaseStartedAt fresh earlier entered
    refine ⟨entry, last, started, fun exceeds actor rest reaches => ?_⟩
    apply goes.timesOut reaches
    apply overdue.mpr ⟨transitioning, entry.startOfSecond, started, exceeds⟩
  · intro stores told
    obtain ⟨unstored, -⟩ | ⟨-, o, move, moves, after⟩ := goes.status
    · cases unstored stores
    rw [Object.reason?_congr after, Object.reason?_moved] at told
    apply moves.isOverdue (Option.some.inj told)

namespace OverduePayments

/-- The project is to be deleted before its remote resource is created. -/
def doomed : Object .project :=
  { Payments.enrolling.after with
    metadata := { Payments.enrolling.after.metadata with deletionTimestamp := some ⟨2, 0⟩ } }

/-- The operator comes back to it after more than an hour. -/
def timedOut : Turn .project :=
  .ofProject 4000 doomed (Turn.reportOn "Active") none

theorem run :
  Run Object.StatusKept "shop" "payments" .payments [Payments.enrolling] timedOut.stored
  := by
  apply edited (o := Payments.enrolling.after)
  · apply turned _ (Turn.goes_ofProject ..)
    apply start
  · exact rfl

theorem shown :
  timedOut.stored.phase = some .creating ∧ timedOut.stored.isDeletionRequested ∧
    timedOut.StoresStatus ∧ Turn.enteredAt? [Payments.enrolling] = some ⟨0, 0⟩
  := by
  decide +kernel

theorem readings :
  ∀ u ∈ [timedOut, Payments.enrolling], u.now.IsReading
  := by
  intro u found
  simp only [List.mem_cons, List.not_mem_nil, or_false] at found
  obtain rfl | rfl := found
  · exact .ofSecond (by decide)
  · exact .ofSecond (by decide)

end OverduePayments

/-- A project that was not created in time fails, though it is to be deleted. -/
theorem times_out_when_overdue_payments :
  (∀ exchange ∈ OverduePayments.timedOut.course, exchange.question.isSend = false) ∧
    OverduePayments.timedOut.stored.isDeletionRequested ∧
    OverduePayments.timedOut.after.phase = some .failed ∧
    OverduePayments.timedOut.after.reason? = some "ReconciliationTimeout"
  := by
  obtain ⟨creating, requested, stores, entered⟩ := OverduePayments.shown
  have goes := Turn.goes_ofProject 4000 OverduePayments.doomed (Turn.reportOn "Active") none
  obtain ⟨timesOut, -⟩ :=
    times_out_when_overdue OverduePayments.run rfl goes OverduePayments.readings
  obtain ⟨entry, last, -, overdue⟩ := timesOut (by simp [creating])
  obtain rfl := Option.some.inj (entered.symm.trans last)
  obtain ⟨actor, rest, reaches⟩ := goes.reaches_of_storesStatus stores
  have fails := overdue (by decide) actor rest reaches
  exact ⟨fails.unsent, requested, fails.stored stores⟩

end Run

end CloudOperator
