import CloudOperator.Proofs.Moves

/-!
# The order of the phases

`Phase.next` is the state machine of the phases.  A turn leaves the phase of an object as
it is stored, or takes it to a phase that follows (`Turn.Goes.phase_follows`), whatever
the turn is answered and wherever it ends.

That no turn takes a created object to a failed one needs the comparison of a server with
its remote resource: it asks nothing of the remote API, so what it fails for is tried
again (`Move.phase_ofFailure_of_isUnanswered`).
-/

namespace CloudOperator

/-- The phases that follow one, for an object whose remote resource is named or not. -/
def Phase.next (named : Bool) : Option Phase → List Phase
  | none => [creating, deleting]
  | some creating => [provisioning, created, failed, deleting]
  | some provisioning => [created, failed, deleting]
  | some created => [updating, deleting]
  | some updating => [created, failed, deleting]
  | some deleting => [failed]
  | some failed => [if named then updating else creating, deleting]

namespace Object

variable {K : Kind} {o : Object K}

/-- Only an object in a transitioning phase can be overdue. -/
theorem phase_of_isOverdue {timeout : Nat} {now : Instant} (overdue : o.isOverdue timeout now) :
  ∃ phase, o.phase = some phase ∧ phase.isTransitioning
  := by
  rcases current : o.phase with _ | phase
  · simp [isOverdue, current] at overdue
  · refine ⟨phase, rfl, ?_⟩
    simp only [isOverdue, current, Bool.and_eq_true, Option.any_some] at overdue
    apply overdue.1

/-- A move that comes before the work of the phase leads to a phase that follows. -/
theorem next_of_preempting {settings : PassSettings} {now : Instant} {move : Move}
    (preempting : o.preempting? settings now = some move) (named : Bool) :
  move.phase ∈ Phase.next named o.phase
  := by
  obtain ⟨overdue, rfl⟩ | ⟨due, rfl⟩ := preempting_cases preempting
  · obtain ⟨phase, current, transitioning⟩ := phase_of_isOverdue overdue
    rw [current]
    cases phase with
    | creating | provisioning | updating => simp [Phase.next, Move.timedOut]
    | created | deleting | failed => cases transitioning
  · simp only [isToBeDeleted, Bool.and_eq_true, decide_eq_true_eq] at due
    obtain ⟨⟨-, undeleted⟩, unfailed⟩ := due
    rcases current : o.phase with _ | phase
    · simp [Phase.next, Move.toBeDeleted]
    · rw [current] at undeleted unfailed
      cases phase with
      | deleting => cases undeleted rfl
      | failed => cases unfailed rfl
      | _ => simp [Phase.next, Move.toBeDeleted]

end Object

namespace Work

variable {K : Kind} {o o' : Object K} {actor : Actor} {course : Course} {decision : Decision}
  {move : Move}

/-- A move that the work leads to keeps the phase, or leads to a phase that follows. -/
theorem Leads.next (h : Leads o actor course o' decision) (makes : decision.move? o' = some move) :
  o.phase = some move.phase ∨ move.phase ∈ Phase.next (o.resourceID ≠ "") o.phase
  := by
  cases h with
  | enrolled phase =>
    obtain rfl := Option.some.inj makes
    rw [phase]
    exact .inr List.mem_cons_self
  | created phase creates settled =>
    obtain rfl := Option.some.inj makes
    rw [phase]
    obtain rfl | rfl := settled
    · exact .inr (by simp [Phase.next, Move.provisioning])
    · exact .inr (by simp [Phase.next, Move.created])
  | polled phase told =>
    obtain rfl := Option.some.inj makes
    rw [phase]
    obtain rfl | rfl | ⟨state, rfl⟩ := told
    · exact .inl rfl
    · exact .inr (by simp [Phase.next, Move.created])
    · exact .inr (by simp [Phase.next, Move.provisioningFailed])
  | drifted phase =>
    obtain rfl := Option.some.inj makes
    rw [phase]
    exact .inr List.mem_cons_self
  | changed phase =>
    obtain rfl := Option.some.inj makes
    rw [phase]
    exact .inr List.mem_cons_self
  | updated phase =>
    obtain rfl := Option.some.inj makes
    rw [phase]
    exact .inr List.mem_cons_self
  | deleted phase =>
    obtain rfl := Option.some.inj makes
    rw [phase]
    exact .inr (by simp [Phase.next, Move.toBeDeleted])
  | retried phase _ _ unnamed =>
    obtain rfl := Option.some.inj makes
    rw [phase]
    exact .inr (by simp [Phase.next, Move.retrying, unnamed])
  | resumed phase _ _ named =>
    obtain rfl := Option.some.inj makes
    rw [phase]
    exact .inr (by simp [Phase.next, Move.updating, named])
  | @failed _ phase cause current working unanswered rewired =>
    obtain rfl := Option.some.inj makes
    rw [rewired.phase, current]
    obtain same | failed := Move.phase_ofFailure phase cause
    · exact .inl (congrArg some same.symm)
    cases phase with
    | created =>
      have same := Move.phase_ofFailure_of_isUnanswered .created (unanswered rfl)
      exact .inl (congrArg some same.symm)
    | failed => cases working rfl
    | _ =>
      right
      simp only [Option.getD_some]
      rw [failed]
      simp [Phase.next]
  | matching | released | resting | waiting => cases makes

end Work

namespace Turn

variable {K : Kind} {ns name : String} {t : Turn K} {o : Object K} {move : Move}

theorem Moves.next (h : t.Moves ns name o move) :
  t.stored.phase = some move.phase ∨
    move.phase ∈ Phase.next (t.stored.resourceID ≠ "") t.stored.phase
  := by
  cases h with
  | preempts preempts => exact .inr (Object.next_of_preempting preempts.preempting _)
  | works _ leads makes => exact leads.next makes

/-- The phase after a turn is the phase before it or one that follows. -/
theorem Goes.phase_follows (h : t.Goes ns name) :
  t.after.phase = t.stored.phase ∨
    ∃ phase ∈ Phase.next (t.stored.resourceID ≠ "") t.stored.phase, t.after.phase = some phase
  := by
  obtain ⟨-, same⟩ | ⟨-, o, move, moves, after⟩ := h.status
  · exact .inl (Object.phase_congr same)
  · have moved : t.after.phase = some move.phase := Object.phase_congr after
    rw [moved]
    obtain same | follows := moves.next
    · exact .inl same.symm
    · exact .inr ⟨move.phase, follows, rfl⟩

/-- The first turn of a project takes it from no phase to its creation. -/
theorem phase_follows_of_payments :
  (ofProject 0 .payments ⟨200, ""⟩ none).after.phase = some .creating ∧
    ((ofProject 0 .payments ⟨200, ""⟩ none).after.phase = none ∨
      ∃ phase ∈ Phase.next false none,
        (ofProject 0 .payments ⟨200, ""⟩ none).after.phase = some phase)
  := ⟨by decide +kernel, (goes_ofProject 0 .payments ⟨200, ""⟩ none).phase_follows⟩

end Turn

end CloudOperator
