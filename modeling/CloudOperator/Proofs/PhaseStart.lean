import CloudOperator.Proofs.Debounce
import CloudOperator.Proofs.PhaseNotes

/-!
# Starts of phases that cannot be read

The start of a phase is a text, which anybody may have written.  A move that is written puts the
time in its place if it enters the phase, or if there is no text; but a text that denotes no
instant is kept, though it tells no start.  So a status that is stored tells the start of its phase
unless it told an unreadable one before and stays in the phase
(`Task.phaseStartedAt_of_move`).

Without a start no move has to wait and no phase times out, whatever time passes.  That lasts for
as long as the object stays in the phase, and no longer (`Run.startIsUnreadable_iff`).
-/

namespace CloudOperator

open Program

variable {K : Kind} {ns name : String}

namespace Object

variable {o o' : Object K} {now : Instant}

/-- The status tells a start of the phase, in a text that denotes no instant. -/
structure StartIsUnreadable (o : Object K) : Prop where
  present : o.phaseStartTime ≠ none
  unread : o.phaseStartedAt = none

/-- No move of the object ever has to wait. -/
def IsNeverDebounced (o : Object K) : Prop :=
  ∀ history interval move now, o.debounce? history interval move now = some none

/-- The phase of the object never times out. -/
def IsNeverOverdue (o : Object K) : Prop :=
  ∀ timeout now, ¬ o.isOverdue timeout now

theorem startIsUnreadable_congr (same : o'.phaseStartTime = o.phaseStartTime) :
  o'.StartIsUnreadable ↔ o.StartIsUnreadable
  := by
  have started : o'.phaseStartedAt = o.phaseStartedAt := by
    rw [phaseStartedAt_eq, same, phaseStartedAt_eq]
  constructor
  · rintro ⟨present, unread⟩
    exact ⟨same ▸ present, started ▸ unread⟩
  · rintro ⟨present, unread⟩
    exact ⟨same ▸ present, started ▸ unread⟩

/-- What a clock reads is a start that can be read. -/
theorem phaseStartedAt_of_seconds (told : o.phaseStartTime = some (Timestamp.seconds now))
    (reading : now.IsReading) :
  o.phaseStartedAt = some now.startOfSecond
  := by
  rw [phaseStartedAt_eq, told, Option.bind_some, Timestamp.read_seconds reading]

/-- After a move the object tells the start of its phase, unless it told an unreadable one before
and stays in the phase. -/
theorem phaseStartedAt_moved_eq_none_iff {move : Move} (reading : now.IsReading) :
  (o.moved move now).phaseStartedAt = none ↔
    o.phase = some move.phase ∧ o.StartIsUnreadable
  := by
  have start := o.phaseStartTime_moved move now
  split at start
  · rw [phaseStartedAt_of_seconds start reading]
    apply iff_of_false
    · rintro ⟨⟩
    · rintro ⟨stays, unreadable⟩
      obtain enters | missing := ‹_ ∨ _›
      · exact enters stays
      · exact unreadable.present missing
  · obtain ⟨stays, present⟩ := not_or.mp ‹_›
    rw [phaseStartedAt_eq, start, ← phaseStartedAt_eq]
    constructor
    · exact fun unread => ⟨Classical.not_not.mp stays, present, unread⟩
    · exact fun kept => kept.2.unread

/-- A start makes a move wait that is repeated at once. -/
theorem isNeverDebounced_iff (entered : o.phase ≠ none) :
  o.IsNeverDebounced ↔ o.phaseStartedAt = none
  := by
  obtain ⟨phase, current⟩ := Option.ne_none_iff_exists'.mp entered
  constructor
  · intro undebounced
    apply Option.eq_none_iff_forall_ne_some.mpr
    intro start started
    have anchored : o.anchor? [] phase = some start := by
      rw [phaseStartedAt] at started
      rw [anchor?, started]
      rfl
    have due := undebounced [] 1_000_000 ⟨phase, .fails, "", "", true⟩ start
    obtain ⟨-, passed⟩ := due_of_debounce? ⟨by decide, by decide⟩ rfl current anchored due
    rw [Instant.elapsedSince_of_le (Int.le_refl _), if_neg (by omega)] at passed
    omega
  · intro unread history interval move now
    have unanchored : o.anchor? history move.phase = none := by
      rw [phaseStartedAt] at unread
      rw [anchor?, unread]
      rfl
    rw [debounce?, unanchored]
    split
    · rfl
    · rfl

/-- A phase that others follow times out once some time has passed since its start. -/
theorem isNeverOverdue_iff (transitioning : o.phase.any Phase.isTransitioning) :
  o.IsNeverOverdue ↔ o.phaseStartedAt = none
  := by
  constructor
  · intro onTime
    apply Option.eq_none_iff_forall_ne_some.mpr
    intro start started
    apply onTime 0 ⟨start.second + start.nano + 2, 0⟩
    rw [isOverdue, transitioning, started, Bool.true_and, Option.any_some, decide_eq_true_iff]
    change 0 < _
    dsimp only [Instant.since, nanosPerSecond]
    split
    · omega
    · split
      · omega
      · omega
  · intro unread timeout now
    rw [isOverdue, unread, Option.any_none, Bool.and_false]
    exact Bool.false_ne_true

end Object

/-! ## Turns and runs -/

namespace Turn

variable {t : Turn K}

/-- A turn keeps a start that cannot be read just if it stays in the phase, and it makes none. -/
theorem Goes.startIsUnreadable_iff (h : t.Goes ns name) (reading : t.now.IsReading) :
  t.after.StartIsUnreadable ↔ t.stored.StartIsUnreadable ∧ t.after.phase = t.stored.phase
  := by
  have start := h.notesPhase.phaseStartTime
  split at start
  · apply iff_of_false
    · intro unreadable
      cases unreadable.unread.symm.trans (Object.phaseStartedAt_of_seconds start reading)
    · rintro ⟨unreadable, stays⟩
      obtain moved | ⟨missing, -⟩ := ‹_ ∨ _›
      · exact moved stays
      · exact unreadable.present missing
  · obtain ⟨stays, -⟩ := not_or.mp ‹_›
    rw [Object.startIsUnreadable_congr start, and_iff_left (Classical.not_not.mp stays)]

/-- A turn over an object that entered a phase leaves it in one, and with some start of it. -/
theorem Goes.keeps_start (h : t.Goes ns name)
    (started : t.stored.phase ≠ none ∧ t.stored.phaseStartTime ≠ none) :
  t.after.phase ≠ none ∧ t.after.phaseStartTime ≠ none
  := by
  have start := h.notesPhase.phaseStartTime
  constructor
  · obtain ⟨-, same⟩ | ⟨-, o, move, moves, after⟩ := h.status
    · rw [Object.phase_congr same]
      exact started.1
    · rw [(moves.shows after).1]
      exact Option.some_ne_none _
  · split at start
    · rw [start]
      exact Option.some_ne_none _
    · rw [start]
      exact started.2

end Turn

namespace Run

variable {initial o : Object K} {turns : List (Turn K)}

/-- After a run a start cannot be read just if it could not be read before, and every turn stayed
in the phase. -/
theorem startIsUnreadable_iff (run : Run Object.StatusKept ns name initial turns o)
    (readings : ∀ u ∈ turns, u.now.IsReading) :
  o.StartIsUnreadable ↔
    initial.StartIsUnreadable ∧ ∀ u ∈ turns, u.after.phase = u.stored.phase
  := by
  induction run with
  | start => exact (and_iff_left fun _ => nofun).symm
  | edited run edit ih =>
    rw [Object.startIsUnreadable_congr (Object.phaseStartTime_congr edit)]
    exact ih readings
  | turned run goes ih =>
    obtain ⟨reading, earlier⟩ := List.forall_mem_cons.mp readings
    rw [goes.startIsUnreadable_iff reading, ih earlier, List.forall_mem_cons, and_assoc,
      and_comm (b := _ = _)]

/-- An object that entered a phase stays in one, and with some start of it. -/
theorem keeps_start (run : Run Object.StatusKept ns name initial turns o)
    (started : initial.phase ≠ none ∧ initial.phaseStartTime ≠ none) :
  o.phase ≠ none ∧ o.phaseStartTime ≠ none
  := by
  apply run.keeps (p := fun o => o.phase ≠ none ∧ o.phaseStartTime ≠ none) _ _ started
  · intro o o' edit started
    rw [Object.phase_congr edit, Object.phaseStartTime_congr edit]
    exact started
  · exact fun goes => goes.keeps_start

/-- The start of the phase is known after a run, unless it was unreadable and every turn stayed
in the phase. -/
theorem phaseStartedAt_eq_none_iff (run : Run Object.StatusKept ns name initial turns o)
    (started : initial.phase ≠ none ∧ initial.phaseStartTime ≠ none)
    (readings : ∀ u ∈ turns, u.now.IsReading) :
  o.phaseStartedAt = none ↔
    initial.phaseStartedAt = none ∧ ∀ u ∈ turns, u.after.phase = u.stored.phase
  := by
  obtain ⟨-, present⟩ := run.keeps_start started
  have unreadable {o : Object K} (present : o.phaseStartTime ≠ none) :
      o.phaseStartedAt = none ↔ o.StartIsUnreadable :=
    ⟨.mk present, Object.StartIsUnreadable.unread⟩
  rw [unreadable present, unreadable started.2]
  exact run.startIsUnreadable_iff readings

end Run

namespace Task

variable {t : Task K} {settings : PassSettings} {move : Move} {now : Instant} {course : Course}
  {result? : Option (Outcome K)}

/-- A status that a move stores tells the start of its phase, unless the object told one that
cannot be read and the move stays in the phase.  After any run from there, no move ever has to
wait and no phase ever times out just if this happened and every turn stayed in the phase. -/
theorem phaseStartedAt_of_move (h : (t.move settings move now).Takes course result?)
    (stores : ∃ exchange ∈ course, exchange.storesStatus) (reading : now.IsReading)
    (s : Object K) :
  ((s.after course).phaseStartedAt = none ↔
    t.object.phase = some move.phase ∧ t.object.StartIsUnreadable) ∧
  ∀ ns name turns o, Run Object.StatusKept ns name (s.after course) turns o →
    (∀ u ∈ turns, u.now.IsReading) →
      (o.IsNeverDebounced ↔
        (t.object.phase = some move.phase ∧ t.object.StartIsUnreadable) ∧
          ∀ u ∈ turns, u.after.phase = u.stored.phase) ∧
      (o.phase.any Phase.isTransitioning → (o.IsNeverOverdue ↔ o.IsNeverDebounced))
  := by
  obtain ⟨unstored, -⟩ | writes := writes_move h
  · obtain ⟨exchange, found, stored⟩ := stores
    cases (unstored exchange found).symm.trans stored
  have status := writes.status s
  have first : (s.after course).phaseStartedAt = none ↔
      t.object.phase = some move.phase ∧ t.object.StartIsUnreadable := by
    rw [← Object.phaseStartedAt_moved_eq_none_iff reading, Object.phaseStartedAt_eq,
      Object.phaseStartTime_congr status, ← Object.phaseStartedAt_eq]
  refine ⟨first, fun ns name turns o run readings => ?_⟩
  have started : (s.after course).phase ≠ none ∧ (s.after course).phaseStartTime ≠ none := by
    rw [Object.phase_congr status, Object.phaseStartTime_congr status, Object.phaseStartTime_moved]
    refine ⟨Option.some_ne_none _, ?_⟩
    split
    · exact Option.some_ne_none _
    · exact (not_or.mp ‹_›).2
  have undebounced := Object.isNeverDebounced_iff (run.keeps_start started).1
  constructor
  · rw [undebounced, run.phaseStartedAt_eq_none_iff started readings, first]
  · exact fun transitioning => (Object.isNeverOverdue_iff transitioning).trans undebounced.symm

namespace UnreadablePayments

/-- A project whose remote resource is being set up, since yesterday as its status tells. -/
def project : Object .project :=
  let o := Run.Payments.creating.after
  o.withStatus { o.statusOrInitial with phaseStartTime := some "yesterday" }

/-- A move of that project, which is stored. -/
def moving (move : Move) : Pass (Outcome .project) :=
  Task.move ⟨project, []⟩ ⟨10_000_000_000, 3600_000_000_000, "cloud"⟩ move ⟨2, 0⟩

/-- The course that it takes. -/
def courseOf (move : Move) : Course :=
  (moving move).courseIn (Turn.projectSurroundings project (Turn.reportOn "InCreation") none) ()

theorem stores :
  ∀ move ∈ [Move.provisioning, Move.created], ∃ exchange ∈ courseOf move, exchange.storesStatus
  := by
  decide +kernel

theorem unreadable :
  project.phase = some .provisioning ∧ project.StartIsUnreadable
  := by
  have shown : project.phase = some .provisioning ∧ project.phaseStartTime ≠ none ∧
      project.phaseStartedAt = none := by
    decide +kernel
  obtain ⟨phase, present, unread⟩ := shown
  exact ⟨phase, present, unread⟩

end UnreadablePayments

/-- The start of that project is not known after it is stored in its phase, and known once it
leaves the phase. -/
theorem phaseStartedAt_of_move_payments :
  (UnreadablePayments.project.after (UnreadablePayments.courseOf .provisioning)).phaseStartedAt
      = none ∧
    (UnreadablePayments.project.after (UnreadablePayments.courseOf .created)).phaseStartedAt ≠ none
  := by
  obtain ⟨phase, unreadable⟩ := UnreadablePayments.unreadable
  have known (move : Move) (listed : move ∈ [Move.provisioning, Move.created]) :=
    phaseStartedAt_of_move (takes_courseIn _ (UnreadablePayments.moving move) ())
      (UnreadablePayments.stores move listed) (.ofSecond (by decide)) UnreadablePayments.project
  obtain ⟨stays, -⟩ := known .provisioning (by simp)
  obtain ⟨leaves, -⟩ := known .created (by simp)
  constructor
  · exact stays.mpr ⟨phase, unreadable⟩
  · intro unknown
    cases phase.symm.trans (leaves.mp unknown).1

/-- A start that cannot be read is kept: the status is stored in its phase, and tells none. -/
theorem unreadable_start_kept :
  ∃ (course : Course) (result? : Option (Outcome .project)),
    (UnreadablePayments.moving .provisioning).Takes course result? ∧
      (∃ exchange ∈ course, exchange.storesStatus) ∧ Instant.IsReading ⟨2, 0⟩ ∧
      (UnreadablePayments.project.after course).phaseStartedAt = none
  := by
  have stores := UnreadablePayments.stores .provisioning (by simp)
  refine ⟨_, _, takes_courseIn _ _ (), stores, .ofSecond (by decide), ?_⟩
  decide +kernel

end Task

end CloudOperator
