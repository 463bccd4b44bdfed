import CloudOperator.Proofs.Run

/-!
# Deletion

Once an object is to be deleted, its deletion takes over, in whatever phase it is then.
Its turns send nothing but the deletion of its remote resource, every status that they
store is one of an object that is being deleted or that failed, and the finalizer of the
operator is not taken from it before the remote resource is gone (`Run.deletion_takes_over`).
-/

namespace CloudOperator

open Program

variable {K : Kind}

/-- An edit that leaves the status, and does not take back that an object is to be
deleted. -/
structure Object.DeletionEdit (o o' : Object K) : Prop where
  status : o'.status = o.status
  requested : o.isDeletionRequested → o'.isDeletionRequested

/-- An object to be deleted that nothing preempts is being deleted, or it failed. -/
theorem Object.phase_of_unpreempted {o : Object K} {settings : PassSettings} {now : Instant}
    (requested : o.isDeletionRequested) (unpreempted : o.preempting? settings now = none) :
  o.phase = some .deleting ∨ o.phase = some .failed
  := by
  by_cases deleting : o.phase = some .deleting
  · exact .inl deleting
  by_cases failed : o.phase = some .failed
  · exact .inr failed
  have due : o.isToBeDeleted := by
    simp [isToBeDeleted, requested, deleting, failed]
  cases not_isToBeDeleted_of_unpreempted unpreempted due

namespace Work

variable {o o' : Object K} {actor : Actor} {course : Course} {decision : Decision} {move : Move}

/-- The work of an object that is being deleted, or that failed, sends nothing but its
deletion. -/
theorem asks_deletion (settings : PassSettings) (now : Instant)
    (phase : o.phase = some .deleting ∨ o.phase = some .failed) :
  (ofPhase o.phase o actor settings now).Asks
    (Operation.SendsOnly (· = o.request actor .delete none))
  := by
  obtain phase | phase := phase
  · rw [phase]
    apply asks_delete o actor
  · rw [phase]
    apply asks_bind asks_ofOption
    intro result
    trivial

/-- The work of an object to be deleted that nothing preempts leads to no phase but its
deletion and its failure. -/
theorem Leads.phase_of_requested (h : Leads o actor course o' decision)
    (makes : decision.move? o' = some move) (requested : o.isDeletionRequested)
    (phase : o.phase = some .deleting ∨ o.phase = some .failed) :
  move.phase = .deleting ∨ move.phase = .failed
  := by
  have impossible {p : Prop} {other : Option Phase} (current : o.phase = other)
      (undeleted : other ≠ some .deleting) (unfailed : other ≠ some .failed) : p := by
    rw [current] at phase
    obtain phase | phase := phase
    · cases undeleted phase
    · cases unfailed phase
  cases h with
  | enrolled current => exact impossible current nofun nofun
  | created current => exact impossible current nofun nofun
  | polled current => exact impossible current nofun nofun
  | drifted current => exact impossible current nofun nofun
  | changed current => exact impossible current nofun nofun
  | updated current => exact impossible current nofun nofun
  | deleted _ _ =>
    obtain rfl := Option.some.inj makes
    exact .inl rfl
  | retried _ _ kept => cases kept requested
  | resumed _ _ kept => cases kept requested
  | @failed _ current cause is working _ rewired =>
    obtain rfl := Option.some.inj makes
    rw [rewired.phase, is]
    obtain same | failed := Move.phase_ofFailure current cause
    · rw [is] at phase
      obtain phase | phase := phase
      · exact .inl (same.trans (Option.some.inj phase))
      · cases working (Option.some.inj phase)
    · exact .inr failed
  | matching | released | resting | waiting => cases makes

end Work

namespace Turn

variable {ns name : String} {t : Turn K}

/-- The turn sends nothing but the deletion of the remote resource. -/
def SendsOnlyDeletion (t : Turn K) : Prop :=
  ∀ exchange ∈ t.course, exchange.question.isSend →
    ∃ actor, exchange.question = .send (t.stored.request actor .delete none)

/-- The turn keeps all finalizers; or it finds the object being deleted, and its remote
resource gone, and then it takes away that of the operator and keeps the others. -/
def LetsGoOnlyDeleted (t : Turn K) : Prop :=
  t.after.metadata.finalizerList = t.stored.metadata.finalizerList ∨
    t.stored.phase = some .deleting ∧
      (t.stored.resourceID = "" ∨ ∃ actor, t.stored.DeletedOn actor t.course) ∧
      t.after.metadata.finalizerList = t.stored.metadata.finalizerList.filter (· ≠ K.finalizer)

theorem Goes.sendsOnlyDeletion (h : t.Goes ns name) (requested : t.stored.isDeletionRequested) :
  t.SendsOnlyDeletion
  := by
  intro exchange found sends
  obtain ⟨unpreempted, actor, work, result?, found, takes⟩ := h.sent found sends
  have phase := Object.phase_of_unpreempted requested unpreempted
  have only := takes.asked (Work.asks_deletion t.settings t.now phase) exchange found
  obtain ⟨question, answer⟩ := exchange
  cases question with
  | send r =>
    obtain rfl : r = _ := only
    exact ⟨actor, rfl⟩
  | _ => cases sends

/-- The status that a turn stores of an object to be deleted is one of its deletion or of
its failure. -/
theorem Goes.phase_of_requested (h : t.Goes ns name) (requested : t.stored.isDeletionRequested)
    (stores : t.StoresStatus) :
  t.after.phase = some .deleting ∨ t.after.phase = some .failed
  := by
  obtain ⟨unstored, -⟩ | ⟨-, o, move, moves, after⟩ := h.status
  · cases unstored stores
  have moved : t.after.phase = some move.phase := Object.phase_congr after
  rw [moved]
  have phase : move.phase = .deleting ∨ move.phase = .failed := by
    cases moves with
    | preempts preempts => exact Object.phase_of_preempting preempts.preempting
    | works works leads makes =>
      apply leads.phase_of_requested makes requested
      apply Object.phase_of_unpreempted requested works.unpreempted
  obtain phase | phase := phase
  · exact .inl (congrArg some phase)
  · exact .inr (congrArg some phase)

theorem Goes.letsGoOnlyDeleted (h : t.Goes ns name) (requested : t.stored.isDeletionRequested) :
  t.LetsGoOnlyDeleted
  := by
  obtain kept | ⟨phase, unpreempted, -⟩ | removed := h.finalizers
  · exact .inl kept
  · obtain deleting | failed := Object.phase_of_unpreempted requested unpreempted
    · cases phase.symm.trans deleting
    · cases phase.symm.trans failed
  · exact .inr removed

end Turn

namespace Run

variable {ns name : String} {initial o : Object K} {turns : List (Turn K)}

/-- An object that is to be deleted stays so. -/
theorem isDeletionRequested (run : Run Object.DeletionEdit ns name initial turns o)
    (requested : initial.isDeletionRequested) :
  o.isDeletionRequested
  := by
  apply run.keeps (p := (·.isDeletionRequested)) _ _ requested
  · exact fun edit => edit.requested
  · intro t goes requested
    rw [Turn.after, Object.isDeletionRequested_after]
    apply requested

/-- Once a turn stored a status, an object that is to be deleted is being deleted or
failed: later turns store no other phases, and edits leave the status. -/
theorem phase_of_storesStatus (run : Run Object.DeletionEdit ns name initial turns o)
    (requested : initial.isDeletionRequested) (stored : ∃ t ∈ turns, t.StoresStatus) :
  o.phase = some .deleting ∨ o.phase = some .failed
  := by
  induction run with
  | start =>
    obtain ⟨t, found, -⟩ := stored
    cases found
  | edited run edit ih =>
    rw [Object.phase_congr edit.status]
    apply ih stored
  | @turned turns t run goes ih =>
    have requested := run.isDeletionRequested requested
    by_cases stores : t.StoresStatus
    · apply goes.phase_of_requested requested stores
    obtain ⟨-, same⟩ | ⟨stores', -⟩ := goes.status
    · rw [Object.phase_congr same]
      apply ih
      obtain ⟨u, found, stores'⟩ := stored
      obtain rfl | found := List.mem_cons.mp found
      · cases stores stores'
      · exact ⟨u, found, stores'⟩
    · cases stores stores'

/-- On a run of an object that is to be deleted nothing is sent but the deletion of its
remote resource; once a turn stored a status, the object is being deleted or failed; and
the finalizer of the operator is taken away only by a turn that finds the object being
deleted and its remote resource gone. -/
theorem deletion_takes_over (run : Run Object.DeletionEdit ns name initial turns o)
    (requested : initial.isDeletionRequested) :
  (∀ t ∈ turns, t.SendsOnlyDeletion) ∧
    ((∃ t ∈ turns, t.StoresStatus) → o.phase = some .deleting ∨ o.phase = some .failed) ∧
    ∀ t ∈ turns, t.LetsGoOnlyDeleted
  := by
  have each {t : Turn K} (found : t ∈ turns) :
      t.Goes ns name ∧ t.stored.isDeletionRequested := by
    obtain ⟨goes, earlier, -, run⟩ := run.of_mem found
    exact ⟨goes, run.isDeletionRequested requested⟩
  refine ⟨?_, ?_, ?_⟩
  · intro t found
    obtain ⟨goes, requested⟩ := each found
    apply goes.sendsOnlyDeletion requested
  · apply run.phase_of_storesStatus requested
  · intro t found
    obtain ⟨goes, requested⟩ := each found
    apply goes.letsGoOnlyDeleted requested

/-- The project `payments` once it was created, is kept by somebody else, too, and is to
be deleted. -/
def doomedPayments : Object .project where
  metadata := { Object.payments.metadata with
    deletionTimestamp := some ⟨0, 0⟩
    finalizers := some ["audit", Kind.finalizer .project] }
  spec := Object.payments.spec
  status := some { Status.initial .project with phase := some .created, resourceID := "res-9" }

/-- The turn that takes the project to its deletion. -/
def doomedPayments.first : Turn .project :=
  .ofProject 1 doomedPayments ⟨204, ""⟩ none

/-- The turn that deletes its remote resource and lets go of it. -/
def doomedPayments.second : Turn .project :=
  .ofProject 2 doomedPayments.first.after ⟨204, ""⟩ none

theorem deletion_takes_over_payments :
  doomedPayments.second.after.metadata.finalizerList = ["audit"] ∧
    doomedPayments.isDeletionRequested ∧
    (∀ t ∈ [doomedPayments.second, doomedPayments.first], t.SendsOnlyDeletion) ∧
    ((∃ t ∈ [doomedPayments.second, doomedPayments.first], t.StoresStatus) →
      doomedPayments.second.after.phase = some .deleting ∨
        doomedPayments.second.after.phase = some .failed) ∧
    ∀ t ∈ [doomedPayments.second, doomedPayments.first], t.LetsGoOnlyDeleted
  := by
  have requested : doomedPayments.isDeletionRequested := rfl
  have run : Run Object.DeletionEdit "shop" "payments" doomedPayments
      [doomedPayments.second, doomedPayments.first] doomedPayments.second.after := by
    apply turned _ (Turn.goes_ofProject ..)
    apply turned _ (Turn.goes_ofProject ..)
    apply start
  exact ⟨by decide +kernel, requested, run.deletion_takes_over requested⟩

end Run

end CloudOperator
