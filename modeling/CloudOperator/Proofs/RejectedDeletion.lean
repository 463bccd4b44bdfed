import CloudOperator.Proofs.Deletion
import CloudOperator.Proofs.Effects
import CloudOperator.Proofs.TerminalCauses

/-!
# Deletions that are rejected

The remote API may reject the deletion of a remote resource each time.  The object fails then,
and it stays so until an interval has passed since the second of its failure
(`Turn.Goes.failedAt_or_isDue`); only then it goes back to its deletion.  So two deletions are an
interval apart, less a second at most, however many turns there are (`Run.deletions_spaced`).
-/

namespace CloudOperator

open Program Course

variable {K : Kind} {ns name : String}

/-- An interval has passed since the second of an instant. -/
def IsDue (interval : Nat) (start now : Instant) : Prop :=
  ∃ due, start.startOfSecond.add? (spanOfDuration interval) = some due ∧ ¬ now < due

namespace IsDue

variable {interval : Nat} {start now later : Instant}

theorem mono (h : IsDue interval start now) (order : now ≤ later) :
  IsDue interval start later
  := by
  obtain ⟨due, added, reached⟩ := h
  exact ⟨due, added, Instant.le_trans (t := due) reached order⟩

/-- A span that is added within the calendar is not cut. -/
theorem not_lt_shift (h : IsDue interval start now) (reading : start.IsReading) :
  ¬ now < start.startOfSecond.shift interval
  := by
  obtain ⟨due, added, reached⟩ := h
  have forwards : 0 ≤ spanOfDuration interval := by
    simp only [spanOfDuration, longestSpan, nanosPerMilli]
    omega
  obtain ⟨rfl, calendar⟩ := Instant.add?_eq_some_iff.mp added
  have most := calendar.2
  have least := start.startOfSecond.le_second_shift forwards
  have second : start.startOfSecond.second = start.second := rfl
  have bounds := reading.second
  have whole : spanOfDuration interval = interval := by
    simp only [spanOfDuration, longestSpan, nanosPerMilli, Instant.lastSecond] at *
    omega
  rw [← whole]
  exact reached

/-- The second of an instant begins less than a second before it. -/
theorem lt_elapsedSince (h : IsDue interval start now) (reading : start.IsReading) :
  (interval : Int) - 1_000_000_000 < now.elapsedSince start
  := by
  have reached := h.not_lt_shift reading
  have cut := start.elapsedSince_startOfSecond_lt now reading.nano
  have passed : (interval : Int) ≤ now.elapsedSince start.startOfSecond := by
    obtain rfl | forwards := Nat.eq_zero_or_pos interval
    · have later := Instant.le_trans (start.startOfSecond.le_shift (Int.le_refl 0)) reached
      exact Instant.elapsedSince_nonneg later reading.startOfSecond.nano
    · exact Instant.le_elapsedSince (by omega) reached
  omega

end IsDue

/-- The object failed at an instant, as its status tells. -/
structure Object.FailedAt (o : Object K) (time : Instant) : Prop where
  phase : o.phase = some .failed
  phaseStartTime : o.phaseStartTime = some (Timestamp.seconds time)

namespace Object

variable {o o' : Object K} {time : Instant}

theorem FailedAt.congr (h : o.FailedAt time) (same : o'.status = o.status) :
  o'.FailedAt time
  where
  phase := (phase_congr same).trans h.phase
  phaseStartTime := (phaseStartTime_congr same).trans h.phaseStartTime

/-- An object that failed is not on its way, so nothing comes before its work. -/
theorem unpreempted_of_failed (failed : o.phase = some .failed) (settings : PassSettings)
    (now : Instant) :
  o.preempting? settings now = none
  := by
  simp [preempting?, isOverdue, isToBeDeleted, failed, Phase.isTransitioning]

/-- The deletion of an object that failed is not decided on before it is due. -/
theorem isDue_of_decideFailed? {interval : Nat} {now : Instant} {decision : Decision} {move : Move}
    (failed : o.FailedAt time) (reading : time.IsReading) (requested : o.isDeletionRequested)
    (decides : o.decideFailed? interval now = some decision)
    (makes : decision.move? o = some move) :
  IsDue interval time now
  := by
  have started : o.phaseStartedAt = some time.startOfSecond := by
    rw [phaseStartedAt_eq, failed.phaseStartTime, Option.bind_some, Timestamp.read_seconds reading]
  rw [decideFailed?, if_pos requested, decideFailedDeletion?, started] at decides
  obtain ⟨due, added, rfl⟩ := Option.map_eq_some_iff.mp decides
  split at makes
  · cases makes
  · exact ⟨due, added, ‹_›⟩

end Object

namespace Turn

variable {t : Turn K}

/-- The times of the deletions that a turn sends: its own time, as often as it sends one. -/
def deletions (t : Turn K) : List Instant :=
  ((requests t.course).filter (·.method = .delete)).map fun _ => t.now

theorem eq_now_of_mem_deletions {time : Instant} (sent : time ∈ t.deletions) :
  time = t.now
  := by
  obtain ⟨_, -, rfl⟩ := List.mem_map.mp sent
  rfl

theorem exists_of_mem_deletions {time : Instant} (sent : time ∈ t.deletions) :
  ∃ request answer, ⟨.send request, answer⟩ ∈ t.course ∧ request.method = .delete
  := by
  obtain ⟨request, sent, -⟩ := List.mem_map.mp sent
  obtain ⟨sent, deletes⟩ := List.mem_filter.mp sent
  obtain ⟨⟨question, answer⟩, found, rfl⟩ := exists_of_mem_requests sent
  exact ⟨request, answer, found, of_decide_eq_true deletes⟩

/-- An object to be deleted for which something is sent is being deleted. -/
theorem Goes.deleting_of_sends (h : t.Goes ns name) (requested : t.stored.isDeletionRequested)
    {request : Request} {answer : Except String Response}
    (found : ⟨.send request, answer⟩ ∈ t.course) :
  t.stored.phase = some .deleting
  := by
  obtain ⟨unpreempted, actor, work, result?, found, takes⟩ := h.sent found rfl
  obtain deleting | failed := Object.phase_of_unpreempted requested unpreempted
  · exact deleting
  · have sent := mem_requests found
    rw [Work.requests_of_idle (.inr failed) takes] at sent
    cases sent

/-- A turn over an object to be deleted sends at most one deletion. -/
theorem Goes.deletions_sublist (h : t.Goes ns name) (requested : t.stored.isDeletionRequested) :
  t.deletions.Sublist [t.now]
  := by
  obtain once | ⟨-, updating, -⟩ := h.areRequests
  · rw [deletions, List.map_const']
    apply (List.replicate_sublist_replicate (n := 1) t.now).mpr
    exact Nat.le_trans (List.length_filter_le ..) once
  · suffices none : t.deletions = [] by
      rw [none]
      exact List.nil_sublist _
    apply List.eq_nil_iff_forall_not_mem.mpr
    intro time sent
    obtain ⟨request, answer, found, -⟩ := exists_of_mem_deletions sent
    cases (h.deleting_of_sends requested found).symm.trans updating

/-- An object whose deletion is rejected fails. -/
theorem Goes.failedAt_of_rejected (h : t.Goes ns name) (completes : t.Completes ns name)
    (deleting : t.stored.phase = some .deleting) {request : Request}
    {answer : Except String Response} (found : ⟨.send request, answer⟩ ∈ t.course)
    (rejects : Exchange.Refuses (some .deleting) ⟨.send request, answer⟩) :
  t.after.FailedAt t.now
  := by
  have working : t.stored.phase ≠ some .failed := by
    simp [deleting]
  have phase : t.after.phase = some .failed := by
    obtain ⟨actor, rest, reaches, found⟩ := h.reaches_of_mem found rfl
    obtain ⟨move, preempts⟩ | ⟨work, carried, decision, o, rfl, works⟩ :=
      h.preempts_or_works reaches completes working
    · cases preempts.not_matters found (.inl rejects)
    · rw [works.fails_iff h completes working, works.makesFailure_iff working, deleting]
      exact .inl ⟨_, works.mem_work found (.inl rejects), rejects⟩
  refine ⟨phase, ?_⟩
  rw [h.notesPhase.phaseStartTime, if_pos]
  simp [phase, deleting]

/-- An object to be deleted that failed stays so until its deletion is due. -/
theorem Goes.failedAt_or_isDue (h : t.Goes ns name) {time : Instant}
    (failed : t.stored.FailedAt time) (reading : time.IsReading)
    (requested : t.stored.isDeletionRequested) :
  t.after.FailedAt time ∨ IsDue t.settings.requeueInterval time t.now
  := by
  obtain leaves | ⟨o, move, writes⟩ := h.writes
  · exact .inl (failed.congr leaves.status)
  right
  cases writes.moves with
  | preempts preempts =>
    cases preempts.preempting.symm.trans (Object.unpreempted_of_failed failed.phase ..)
  | works works leads makes =>
    have goesOn := works.works
    rw [failed.phase] at goesOn
    obtain ⟨rfl, decides⟩ := Work.takes_failed goesOn
    exact Object.isDue_of_decideFailed? failed reading requested decides makes

end Turn

/-- The times of the deletions that are sent by turns, the last one first. -/
def deletionTimes (turns : List (Turn K)) : List Instant :=
  turns.flatMap Turn.deletions

/-- Turns of an operator whose deletions are rejected: one comes after the other at times that
a clock reads, none is given up, and what is written is accepted. -/
structure Rejected (interval : Nat) (ns name : String) (turns : List (Turn K)) : Prop where
  settings : ∀ t ∈ turns, t.settings.requeueInterval = interval
  readings : ∀ t ∈ turns, t.now.IsReading
  order : turns.Pairwise fun later earlier => earlier.now ≤ later.now
  completes : ∀ t ∈ turns, t.Completes ns name
  rejects : ∀ t ∈ turns, ∀ request answer, ⟨.send request, answer⟩ ∈ t.course →
    request.method = .delete → Exchange.Refuses (some .deleting) ⟨.send request, answer⟩

namespace Rejected

variable {interval : Nat} {t : Turn K} {turns : List (Turn K)}

theorem of_cons (h : Rejected interval ns name (t :: turns)) :
  Rejected interval ns name turns
  where
  settings u found := h.settings u (List.mem_cons_of_mem _ found)
  readings u found := h.readings u (List.mem_cons_of_mem _ found)
  order := h.order.of_cons
  completes u found := h.completes u (List.mem_cons_of_mem _ found)
  rejects u found := h.rejects u (List.mem_cons_of_mem _ found)

/-- Deletions are sent at times that a clock reads. -/
theorem isReading (h : Rejected interval ns name turns) {time : Instant}
    (sent : time ∈ deletionTimes turns) :
  time.IsReading
  := by
  obtain ⟨t, found, sent⟩ := List.mem_flatMap.mp sent
  rw [Turn.eq_now_of_mem_deletions sent]
  exact h.readings t found

/-- A turn that sends a deletion finds the object being deleted, and leaves it failed. -/
theorem failedAt (h : Rejected interval ns name turns) (found : t ∈ turns) (goes : t.Goes ns name)
    (requested : t.stored.isDeletionRequested) {time : Instant} (sent : time ∈ t.deletions) :
  t.stored.phase = some .deleting ∧ t.after.FailedAt t.now
  := by
  obtain ⟨request, answer, asked, deletes⟩ := Turn.exists_of_mem_deletions sent
  have deleting := goes.deleting_of_sends requested asked
  have rejects := h.rejects t found request answer asked deletes
  exact ⟨deleting, goes.failedAt_of_rejected (h.completes t found) deleting asked rejects⟩

end Rejected

namespace Run

variable {initial o : Object K} {turns : List (Turn K)} {interval : Nat}

/-- After a rejected deletion the object stays failed until a turn at which the deletion is due
again. -/
theorem failedAt_or_isDue (run : Run Object.DeletionEdit ns name initial turns o)
    (requested : initial.isDeletionRequested) (rejected : Rejected interval ns name turns)
    {time : Instant} (sent : time ∈ deletionTimes turns) :
  o.FailedAt time ∨ ∃ t ∈ turns, IsDue interval time t.now
  := by
  induction run with
  | start => cases sent
  | edited _ edit ih => exact (ih rejected sent).imp_left (·.congr edit.status)
  | @turned turns t run goes ih =>
    have requested := run.isDeletionRequested requested
    have first : t ∈ t :: turns := List.mem_cons_self
    rw [deletionTimes, List.flatMap_cons] at sent
    obtain sent | sent := List.mem_append.mp sent
    · obtain rfl := Turn.eq_now_of_mem_deletions sent
      exact .inl (rejected.failedAt first goes requested sent).2
    · obtain failed | ⟨u, found, due⟩ := ih rejected.of_cons sent
      · have reading := rejected.of_cons.isReading sent
        obtain failed | due := goes.failedAt_or_isDue failed reading requested
        · exact .inl failed
        · exact .inr ⟨t, first, rejected.settings t first ▸ due⟩
      · exact .inr ⟨u, List.mem_cons_of_mem _ found, due⟩

/-- **Rejected deletions are spaced.**  However many turns there are, any two deletions that are
sent for an object are an interval apart, less a second at most. -/
theorem deletions_spaced (run : Run Object.DeletionEdit ns name initial turns o)
    (requested : initial.isDeletionRequested) (rejected : Rejected interval ns name turns) :
  (deletionTimes turns).Pairwise fun later earlier =>
    (interval : Int) - 1_000_000_000 < later.elapsedSince earlier
  := by
  induction run with
  | start => exact .nil
  | edited _ _ ih => exact ih rejected
  | @turned turns t run goes ih =>
    have requested' := run.isDeletionRequested requested
    have first : t ∈ t :: turns := List.mem_cons_self
    rw [deletionTimes, List.flatMap_cons]
    refine List.pairwise_append.mpr ⟨?_, ih rejected.of_cons, ?_⟩
    · exact (List.pairwise_singleton _ _).sublist (goes.deletions_sublist requested')
    · intro later sent earlier sent'
      obtain rfl := Turn.eq_now_of_mem_deletions sent
      have deleting := (rejected.failedAt first goes requested' sent).1
      obtain failed | ⟨u, found, due⟩ := run.failedAt_or_isDue requested rejected.of_cons sent'
      · cases deleting.symm.trans failed.phase
      · have order := List.rel_of_pairwise_cons rejected.order found
        exact (due.mono order).lt_elapsedSince (rejected.of_cons.isReading sent')

namespace RejectedPayments

/-- A turn of the project `payments` to which the remote API answers that a request is bad. -/
def turn (now : Instant) (stored : Object .project) : Turn .project :=
  .taken .empty ⟨10_000_000_000, 3600_000_000_000, "cloud"⟩ now stored "shop" "payments"
    (Turn.projectSurroundings stored ⟨400, ""⟩ none) ()

/-- The deletion is rejected late in the third second. -/
def failing : Turn .project :=
  turn ⟨2, 900_000_000⟩ doomedPayments.first.after

/-- The project is looked at too early. -/
def waiting : Turn .project :=
  turn ⟨5, 0⟩ failing.after

/-- It goes back to its deletion ten seconds after the beginning of that second. -/
def retrying : Turn .project :=
  turn ⟨12, 0⟩ waiting.after

/-- The deletion is sent again at once. -/
def again : Turn .project :=
  turn ⟨12, 0⟩ retrying.after

/-- The turns of the project, the last one first. -/
def history : List (Turn .project) :=
  [again, retrying, waiting, failing]

theorem goes_turn (now : Instant) (stored : Object .project) :
  (turn now stored).Goes "shop" "payments"
  := Turn.goes_taken fun _ => rfl

theorem exists_of_mem {t : Turn .project} (found : t ∈ history) :
  ∃ now stored, now.IsReading ∧ t = turn now stored
  := by
  simp only [history, List.mem_cons, List.not_mem_nil, or_false] at found
  obtain rfl | rfl | rfl | rfl := found
  · exact ⟨_, _, .ofSecond (by decide), rfl⟩
  · exact ⟨_, _, .ofSecond (by decide), rfl⟩
  · exact ⟨_, _, .ofSecond (by decide), rfl⟩
  · exact ⟨_, _, ⟨by decide, by decide, by decide⟩, rfl⟩

theorem run :
  Run Object.DeletionEdit "shop" "payments" doomedPayments.first.after history again.after
  := by
  apply turned _ (goes_turn ..)
  apply turned _ (goes_turn ..)
  apply turned _ (goes_turn ..)
  apply turned _ (goes_turn ..)
  apply start

theorem shown :
  (∀ t ∈ history, t.result?.isSome ∧ ∀ exchange ∈ t.course, exchange.refusal? = none) ∧
    deletionTimes history = [⟨12, 0⟩, ⟨2, 900_000_000⟩]
  := by
  decide +kernel

theorem rejected :
  Rejected 10_000_000_000 "shop" "payments" history
  where
  settings t found := by
    obtain ⟨now, stored, -, rfl⟩ := exists_of_mem found
    rfl
  readings t found := by
    obtain ⟨now, stored, reading, rfl⟩ := exists_of_mem found
    exact reading
  order := by
    decide +kernel
  completes t found := by
    obtain ⟨now, stored, -, rfl⟩ := exists_of_mem found
    obtain ⟨returns, accepted⟩ := shown.1 _ found
    obtain ⟨result, ends⟩ := Option.isSome_iff_exists.mp returns
    exact ⟨(goes_turn now stored).finished ends, accepted⟩
  rejects t found request answer asked _ := by
    obtain ⟨now, stored, -, rfl⟩ := exists_of_mem found
    obtain ⟨s, given⟩ := exists_state_of_mem_courseIn _ asked
    obtain rfl : answer = .ok ⟨400, ""⟩ := given
    exact .answered (by decide) (by decide +kernel) (by decide)

end RejectedPayments

theorem deletions_spaced_payments :
  deletionTimes RejectedPayments.history = [⟨12, 0⟩, ⟨2, 900_000_000⟩] ∧
    RejectedPayments.history.map (·.stored.phase) =
      [some .deleting, some .failed, some .failed, some .deleting] ∧
    (deletionTimes RejectedPayments.history).Pairwise fun later earlier =>
      ((10_000_000_000 : Nat) : Int) - 1_000_000_000 < later.elapsedSince earlier
  := by
  refine ⟨RejectedPayments.shown.2, by decide +kernel, ?_⟩
  exact RejectedPayments.run.deletions_spaced (by decide +kernel) RejectedPayments.rejected

end Run

end CloudOperator
