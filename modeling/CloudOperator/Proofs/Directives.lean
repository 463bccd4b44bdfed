import CloudOperator.Proofs.TerminalCauses

/-!
# When another pass is due

A pass that reaches its object does not leave the calendar, and if it succeeds then it asks for no
other pass, or for one after a positive duration of at most the interval
(`Turn.Goes.directive_isWithin`).  It is of no importance which timeout a phase has, whether its
start lies in the future, or whether the last write does.

There are two places where a duration is computed.  A move that stays in its phase waits for the
time of its next write (`Object.IsDated.debounce?`), and the deletion of an object that failed
waits for the end of an interval (`Object.IsDated.decideFailed?`).  Both are times until a later
instant.  Such a time is positive if neither instant lies in a leap second (`Instant.since_pos`);
a leap second that begins or ends it may make it nothing.
-/

namespace CloudOperator

open Program

/-! ## Durations -/

namespace Instant

variable {t u : Instant} {span : Int}

/-- An instant in the years 0 to 9999 that lies in no leap second. -/
structure IsOrdinary (t : Instant) : Prop where
  reading : t.IsReading
  unleaped : ¬ t.inLeapSecond

/-- It is some time until a later instant. -/
theorem since_pos (later : u < t) (unleaped : ¬ t.inLeapSecond) (unleaped' : ¬ u.inLeapSecond) :
  0 < t.since u
  := by
  rw [lt_iff] at later
  rw [← elapsedSince_eq_since unleaped unleaped', elapsedSince_of_le (by omega),
    if_neg fun leap => unleaped' leap.2]
  rw [inLeapSecond] at unleaped unleaped'
  omega

/-- A sum does not lead into a leap second. -/
theorem not_inLeapSecond_of_add? (unleaped : ¬ u.inLeapSecond) (added : u.add? span = some t) :
  ¬ t.inLeapSecond
  := by
  rw [(add?_eq_some_iff.mp added).1]
  apply not_inLeapSecond_shift unleaped

theorem not_inLeapSecond_max (unleaped : ¬ t.inLeapSecond) (unleaped' : ¬ u.inLeapSecond) :
  ¬ (max t u).inLeapSecond
  := by
  change ¬ (if t ≤ u then u else t).inLeapSecond
  split
  · exact unleaped'
  · exact unleaped

end Instant

/-- No other pass is due, or one is due after a positive duration of at most the interval. -/
def Directive.IsWithin (interval : Nat) : Directive → Prop
  | done => True
  | after duration => 0 < duration ∧ duration ≤ interval

variable {interval : Nat} {now later : Instant}

theorem isWithin_remaining (positive : 0 < interval) (waits : now < later)
    (unleaped : ¬ later.inLeapSecond) (unleaped' : ¬ now.inLeapSecond) :
  (Directive.after (remaining later now interval)).IsWithin interval
  := by
  have span := Instant.since_pos waits unleaped unleaped'
  refine ⟨?_, remaining_le later now interval⟩
  dsimp only [remaining]
  split
  · exact positive
  · omega

/-- The time of the next write lies in no leap second, unless it is reached. -/
theorem not_inLeapSecond_of_nextAllowed? {anchor : Instant} {span : Int}
    (unleaped : ¬ anchor.inLeapSecond) (next : nextAllowed? anchor span now = some later)
    (waits : now < later) :
  ¬ later.inLeapSecond
  := by
  dsimp only [nextAllowed?] at next
  split at next
  · obtain rfl := Option.some.inj next
    cases now.le_refl waits
  · split at next
    · exact Instant.not_inLeapSecond_of_add? unleaped next
    · exact Instant.not_inLeapSecond_of_add? unleaped next

variable {K : Kind} {ns name : String}

namespace Object

variable {o o' : Object K} {history : WriteHistory} {phase : Phase}

/-- The times that are known of an object: the start of its phase may be anything but a leap
second, and the writes that are remembered were made at ordinary times. -/
structure IsDated (o : Object K) (history : WriteHistory) : Prop where
  start : ∀ start, o.phaseStartedAt = some start → ¬ start.inLeapSecond
  writes : ∀ phase last, history.lastIn? o.key phase = some last → last.IsOrdinary

namespace IsDated

/-- The same times are known of an object with the same key and the same start. -/
theorem congr (h : o.IsDated history) (key : o'.key = o.key)
    (start : o'.phaseStartTime = o.phaseStartTime) :
  o'.IsDated history
  where
  start := by
    rw [phaseStartedAt_eq, start, ← phaseStartedAt_eq]
    exact h.start
  writes := by
    rw [key]
    exact h.writes

theorem keeps (h : o.IsDated history) (keeps : o.Keeps o') :
  o'.IsDated history
  := by
  apply h.congr _ keeps.phaseStartTime
  rw [key, keeps.metadata, key]

theorem anchor {anchor : Instant} (h : o.IsDated history)
    (anchored : o.anchor? history phase = some anchor) :
  ¬ anchor.inLeapSecond
  := by
  obtain ⟨start, started, rfl⟩ := Option.map_eq_some_iff.mp anchored
  split
  · exact Instant.not_inLeapSecond_max (h.writes _ _ ‹_›).unleaped (h.start start started)
  · exact h.start start started

variable (positive : 0 < interval) (most : interval ≤ 1_000_000_000_000 * 1_000_000_000)
  (ordinary : now.IsOrdinary)

include positive most ordinary

/-- It is decided whether a move has to wait, and how long. -/
theorem debounce? (h : o.IsDated history) (move : Move) :
  ∃ wait?, o.debounce? history interval move now = some wait? ∧
    ∀ duration, wait? = some duration → (Directive.after duration).IsWithin interval
  := by
  obtain ⟨wait?, decides⟩ := exists_debounce?_of_isNear most ordinary.reading.isNear
    (fun phase last told => (h.writes phase last told).reading.isNear) move
  refine ⟨wait?, decides, ?_⟩
  rintro duration rfl
  rw [Object.debounce?] at decides
  split at decides
  · split at decides
    · cases decides
    · obtain ⟨allowed, next, waits⟩ := Option.map_eq_some_iff.mp decides
      split at waits
      · obtain rfl := Option.some.inj waits
        have unleaped := not_inLeapSecond_of_nextAllowed? (h.anchor ‹_›) next ‹_›
        exact isWithin_remaining positive ‹_› unleaped ordinary.unleaped
      · cases waits
  · cases decides

/-- It is decided what becomes of an object that failed, and how long it has to wait. -/
theorem decideFailed? (h : o.IsDated history) :
  ∃ decision, o.decideFailed? interval now = some decision ∧
    ∀ duration, decision = .wait duration → (Directive.after duration).IsWithin interval
  := by
  rw [Object.decideFailed?]
  split
  · rw [decideFailedDeletion?]
    cases started : o.phaseStartedAt with
    | none =>
      refine ⟨_, rfl, ?_⟩
      rintro duration ⟨⟩
    | some start =>
      have near : start.IsNear := by
        rw [phaseStartedAt_eq] at started
        obtain ⟨text, -, read⟩ := Option.bind_eq_some_iff.mp started
        exact Timestamp.isNear_of_read read
      obtain ⟨due, added⟩ : ∃ due, start.add? (spanOfDuration interval) = some due := by
        apply near.exists_add?
        · simp only [spanOfDuration, longestSpan, nanosPerMilli]
          omega
        · simp only [spanOfDuration, longestSpan, nanosPerMilli]
          omega
      dsimp only
      rw [added]
      refine ⟨_, rfl, fun duration => ?_⟩
      dsimp only
      split
      · rintro ⟨⟩
        have unleaped := Instant.not_inLeapSecond_of_add? (h.start start started) added
        exact isWithin_remaining positive ‹_› unleaped ordinary.unleaped
      · rintro ⟨⟩
  · split
    · refine ⟨_, rfl, ?_⟩
      rintro duration ⟨⟩
    · split
      · refine ⟨_, rfl, ?_⟩
        rintro duration ⟨⟩
      · refine ⟨_, rfl, ?_⟩
        rintro duration ⟨⟩

end IsDated

end Object

/-! ## Passes -/

namespace Task

variable {t : Task K}

/-- An ending fails, or leaves a pass due within the interval. -/
def Outcome.IsWithin (interval : Nat) (outcome : Outcome K) : Prop :=
  ∀ directive, outcome.1 = .ok directive → directive.IsWithin interval

/-- A write of finalizers leaves the object as it is, but for its finalizers and its version. -/
theorem returns_writeFinalizers (o : Object K) :
  (t.writeFinalizers o).Returns fun written =>
    written.1 = .ok () → ∃ answer, written.2 = ⟨o.adoptVersion answer, t.history⟩
  := by
  rintro (cause | answer)
  · rintro ⟨⟩
  · exact fun _ => ⟨answer, rfl⟩

theorem returns_release (t : Task K) :
  t.release.Returns (Outcome.IsWithin interval)
  := by
  apply Returns.bind
  rw [letGo]
  split
  · apply (returns_writeFinalizers _).mono
    rintro ⟨cause | _, t'⟩ -
    · rintro directive ⟨⟩
    · rintro directive ⟨⟩
      trivial
  · rintro directive ⟨⟩
    trivial

end Task

section

variable {settings : PassSettings} (positive : 0 < settings.requeueInterval)
  (most : settings.requeueInterval ≤ 1_000_000_000_000 * 1_000_000_000)
  (ordinary : now.IsOrdinary)

include positive most ordinary

namespace Task

variable {t : Task K}

theorem returns_move (dated : t.object.IsDated t.history) (move : Move) :
  (t.move settings move now).Returns (Outcome.IsWithin settings.requeueInterval)
  := by
  obtain ⟨wait?, decides, within⟩ := dated.debounce? positive most ordinary move
  rw [Task.move, decides]
  cases wait? with
  | some duration =>
    intro _
    rintro directive ⟨⟩
    exact within duration rfl
  | none =>
    have requeues : (if move.requeue then Directive.after settings.requeueInterval
        else .done).IsWithin settings.requeueInterval := by
      split
      · exact ⟨positive, Nat.le_refl _⟩
      · trivial
    rintro (cause | stored)
    · rintro directive ⟨⟩
    · change Returns _ (if _ then _ else _)
      split
      · intro _
        rintro directive ⟨⟩
        exact requeues
      · rintro directive ⟨⟩
        exact requeues

theorem returns_enroll (dated : t.object.IsDated t.history) :
  (t.enroll settings now).Returns (Outcome.IsWithin settings.requeueInterval)
  := by
  apply Returns.bind
  have first := returns_move positive most ordinary dated .initialized
  rw [keep]
  split
  · exact first
  · apply (returns_writeFinalizers _).mono
    rintro ⟨cause | _, t'⟩ written
    · rintro directive ⟨⟩
    · obtain ⟨answer, rfl⟩ := written rfl
      have kept : (t.object.addFinalizer.adoptVersion answer).IsDated t.history :=
        dated.congr rfl rfl
      exact returns_move positive most ordinary kept .initialized

theorem returns_carryOut (dated : t.object.IsDated t.history) (decision : Decision)
    (waits : ∀ duration, decision = .wait duration →
      (Directive.after duration).IsWithin settings.requeueInterval) :
  (t.carryOut settings now decision).Returns (Outcome.IsWithin settings.requeueInterval)
  := by
  cases decision with
  | rest =>
    rintro directive ⟨⟩
    trivial
  | wait duration =>
    rintro directive ⟨⟩
    exact waits duration rfl
  | move move => exact returns_move positive most ordinary dated move
  | enroll => exact returns_enroll positive most ordinary dated
  | fail cause => exact fun _ => returns_move positive most ordinary dated _
  | release => exact t.returns_release

end Task

/-- The work of a phase comes to a decision about an object of which the same times are known. -/
theorem Work.returns_ofPhase {o : Object K} {history : WriteHistory} (dated : o.IsDated history)
    (actor : Actor) :
  (Work.ofPhase o.phase o actor settings now).Returns fun (decision, o') =>
    o'.IsDated history ∧ ∀ duration, decision = .wait duration →
      (Directive.after duration).IsWithin settings.requeueInterval
  := by
  obtain ⟨failed, decides, waits⟩ := dated.decideFailed? positive most ordinary
  apply returns_iff.mpr
  constructor
  · by_cases phase : o.phase = some .failed
    · rw [phase, Work.ofPhase, decides]
      trivial
    · exact Work.stays_ofPhase phase
  · apply ends_of_takes
    rintro course ⟨decision, o'⟩ works
    refine ⟨dated.keeps (Work.leads works).keeps, ?_⟩
    rintro duration rfl
    cases Work.leads works with
    | waiting phase =>
      rw [phase] at works
      obtain ⟨-, decides'⟩ := Work.takes_failed works
      cases decides.symm.trans decides'
      exact waits duration rfl

/-- What follows the authentication stays in the calendar. -/
theorem Task.returns_proceed {t : Task K} (dated : t.object.IsDated t.history) (actor : Actor) :
  (t.proceed settings actor now).Returns (Outcome.IsWithin settings.requeueInterval)
  := by
  cases preempting : t.object.preempting? settings now with
  | some move =>
    rw [proceed_of_preempting preempting]
    exact returns_move positive most ordinary dated move
  | none =>
    rw [proceed_of_unpreempted preempting]
    apply Returns.bind
    apply (Work.returns_ofPhase positive most ordinary dated actor).mono
    rintro ⟨decision, o⟩ ⟨dated, waits⟩
    exact returns_carryOut positive most ordinary dated decision waits

end

namespace Turn

variable {t : Turn K} {actor : Actor} {rest : Course}

/-- A pass that reaches the object leaves the calendar only in what follows the
authentication. -/
theorem Goes.leaves_proceed (h : t.Goes ns name) (reaches : t.Reaches ns name actor rest)
    (leaves : (t.memory.pass t.settings t.now K ns name).Leaves t.course) :
  (Task.proceed ⟨t.stored, t.memory.writes⟩ t.settings actor t.now).Leaves rest
  := by
  have tenant := h.tenant_ne reaches
  obtain ⟨rfl, tokens, opening, course, authenticates⟩ := reaches
  rw [course, Memory.pass_eq] at leaves
  cases leaves with
  | answered leaves =>
    rw [Memory.receive, Memory.visit_of_told tenant] at leaves
    obtain leaves | ⟨_, _, _, -, -, leaves⟩ := leaves_bind.mp (leaves.rest authenticates)
    · exact leaves
    · cases not_leaves_done leaves

/-- A turn that reaches its object does not leave the calendar.  If it succeeds then no other pass
is due, or one is due after a positive duration of at most the interval. -/
theorem Goes.directive_isWithin (h : t.Goes ns name) (reaches : t.Reaches ns name actor rest)
    (positive : 0 < t.settings.requeueInterval)
    (most : t.settings.requeueInterval ≤ 1_000_000_000_000 * 1_000_000_000)
    (ordinary : t.now.IsOrdinary)
    (written : ∀ key phase last, t.memory.writes.lastIn? key phase = some last → last.IsOrdinary)
    (unleaped : ∀ start, t.stored.phaseStartedAt = some start → ¬ start.inLeapSecond) :
  ¬ (t.memory.pass t.settings t.now K ns name).Leaves t.course ∧
    ∀ directive memory, t.result? = some (.ok directive, memory) →
      directive.IsWithin t.settings.requeueInterval
  := by
  have returns := Task.returns_proceed positive most ordinary
    (t := ⟨t.stored, t.memory.writes⟩) ⟨unleaped, written _⟩ actor
  obtain ⟨stays, ends⟩ := returns_iff.mp returns
  constructor
  · intro leaves
    exact stays.not_leaves (h.leaves_proceed reaches leaves)
  · obtain ⟨tokens, result?, proceeds, carried, -⟩ := h.proceeds reaches
    intro directive memory succeeds
    rw [carried] at succeeds
    obtain ⟨⟨result, t'⟩, rfl, same⟩ := Option.map_eq_some_iff.mp succeeds
    cases same
    exact proceeds.ends ends directive rfl

/-- A project whose remote resource is being set up.  Its status tells that this begins with the
last second of the year 9999. -/
def projectAhead : Object .project :=
  let o := Run.Payments.creating.after
  o.withStatus { o.statusOrInitial with phaseStartTime := some "9999-12-31T23:59:59Z" }

/-- The remote resource of that project is looked at, and is not ready. -/
def ofProjectAhead : Turn .project :=
  .ofProject 2 projectAhead (reportOn "InCreation") none

/-- That project is looked at again after the interval. -/
theorem directive_isWithin_ahead :
  ∃ duration memory, ofProjectAhead.result? = some (.ok (.after duration), memory) ∧
    0 < duration ∧ duration ≤ 10_000_000_000
  := by
  have goes : ofProjectAhead.Goes "shop" "payments" := goes_ofProject ..
  have shown : (ofProjectAhead.result?.any fun result =>
        result.1.toOption.any Directive.isRequeue) ∧
      ofProjectAhead.sent = [(.get, "/projects/res-9")] ∧
      ∀ start ∈ ofProjectAhead.stored.phaseStartedAt, ¬ start.inLeapSecond := by
    decide +kernel
  obtain ⟨requeues, sent, unleaped⟩ := shown
  obtain ⟨request, answer, found, -⟩ :=
    exists_of_mem_sent (t := ofProjectAhead) (sent ▸ List.mem_singleton_self _)
  obtain ⟨actor, rest, reaches, -⟩ := goes.reaches_of_mem found rfl
  obtain ⟨-, within⟩ := goes.directive_isWithin reaches (by decide) (by decide)
    ⟨.ofSecond (by decide), by decide⟩ nofun unleaped
  rcases ends : ofProjectAhead.result? with _ | ⟨failure | directive, memory⟩
  · simp [ends] at requeues
  · simp [ends, Except.toOption] at requeues
  · cases directive with
    | done => simp [ends, Except.toOption, Directive.isRequeue] at requeues
    | after duration => exact ⟨duration, memory, rfl, within _ memory ends⟩

end Turn

end CloudOperator
