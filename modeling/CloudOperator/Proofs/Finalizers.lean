import CloudOperator.Proofs.Deletion
import CloudOperator.Proofs.Identity

/-!
# Finalizers

The finalizer of the operator is in place before anything is created for an object, and the
finalizers of others are left alone (`Run.finalizer_in_place`).

The first phase of an object is stored only where the finalizer was found or stored before
(`Turn.Goes.hasFinalizer_of_enrolled`), and it is taken away only from an object that is being
deleted.  The deletion of an object cannot be taken back, so an object that lacks the
finalizer does not get back to the phases of one that is kept (`Object.Secured`).
-/

namespace CloudOperator

open Program

variable {K : Kind} {ns name : String}

namespace Object

/-- How often the finalizer of the operator is among those of an object. -/
def finalizerCount (o : Object K) : Nat :=
  o.metadata.finalizerList.count K.finalizer

/-- The finalizers of an object but that of the operator. -/
def otherFinalizers (o : Object K) : List String :=
  o.metadata.finalizerList.filter (· ≠ K.finalizer)

theorem hasFinalizer_iff (o : Object K) :
  o.hasFinalizer ↔ 0 < o.finalizerCount
  := by
  rw [hasFinalizer, finalizerCount, List.contains_iff_mem, List.count_pos_iff]

theorem hasFinalizer_congr {o o' : Object K}
    (same : o.metadata.finalizerList = o'.metadata.finalizerList) :
  o.hasFinalizer = o'.hasFinalizer
  := by
  rw [hasFinalizer, same, hasFinalizer]

/-- An edit by others that leaves the status, does not take back that an object is to be
deleted, and does not take the finalizer of the operator away or put it there twice. -/
structure FinalizerEdit (o o' : Object K) : Prop extends o.DeletionEdit o' where
  kept : o.hasFinalizer → o'.hasFinalizer
  once : o'.finalizerCount ≤ 1

end Object

/-- The phases of an object whose remote resource is to be there: it is being created, or it was
created and is not to be deleted. -/
def Phase.engaged : List (Option Phase) :=
  [some creating, some provisioning, some created, some updating]

/-! ## Enrolling -/

/-- The status of an object that is enrolled is stored only where the finalizer is. -/
theorem Task.hasFinalizer_of_enroll {t : Task K} {settings : PassSettings} {now : Instant}
    {course : Course} {result? : Option (Outcome K)}
    (h : (t.enroll settings now).Takes course result?)
    (stores : ∃ exchange ∈ course, exchange.storesStatus) :
  (t.object.after course).hasFinalizer
  := by
  obtain ⟨silent, -⟩ | ⟨has, goes⟩ | ⟨-, answer, rest, rfl, goes⟩ := takes_enroll h
  · obtain ⟨exchange, found, stores⟩ := stores
    rw [(silent exchange found).2.1] at stores
    cases stores
  · have same := Object.finalizerList_after (unstored_finalizers_move goes) t.object
    rw [Object.hasFinalizer_congr same]
    apply has
  · rw [Object.after_cons, Object.afterExchange_writeFinalizers, Object.hasFinalizer,
      Object.finalizerList_after (unstored_finalizers_move goes),
      Object.finalizerList_storingFinalizers]
    simp [Object.addFinalizer, Object.withFinalizers, Metadata.finalizerList]

/-- The work leads to the deletion of an object only if that is requested. -/
theorem Work.Leads.requested_of_deleting {o o' : Object K} {actor : Actor} {course : Course}
    {decision : Decision} {move : Move} (h : Leads o actor course o' decision)
    (makes : decision.move? o' = some move) (deleting : move.phase = .deleting) :
  o.phase = some .deleting ∨ o.isDeletionRequested
  := by
  cases h with
  | created _ _ settled =>
    obtain rfl := Option.some.inj makes
    obtain rfl | rfl := settled
    · cases deleting
    · cases deleting
  | polled _ told =>
    obtain rfl := Option.some.inj makes
    obtain rfl | rfl | ⟨state, rfl⟩ := told
    · cases deleting
    · cases deleting
    · cases deleting
  | deleted _ requested => exact .inr requested
  | @failed _ phase cause current working _ rewired =>
    obtain rfl := Option.some.inj makes
    rw [rewired.phase, current] at deleting
    obtain same | failed := Move.phase_ofFailure phase cause
    · exact .inl (current.trans (congrArg some (same.symm.trans deleting)))
    · cases failed.symm.trans deleting
  | enrolled | drifted | changed | updated | retried | resumed =>
    obtain rfl := Option.some.inj makes
    cases deleting
  | matching | released | resting | waiting => cases makes

namespace Turn

variable {t : Turn K}

/-- A turn that stores the first phase of an object leaves it with the finalizer. -/
theorem Goes.hasFinalizer_of_enrolled (h : t.Goes ns name) (new : t.stored.phase = none)
    (undeleted : ¬ t.stored.isDeletionRequested) (stores : t.StoresStatus) :
  t.after.hasFinalizer
  := by
  obtain ⟨first, carried, course, unwritten, ends⟩ := h.written
  have unstored := fun exchange found => Exchange.unstored_of_isWrite (unwritten exchange found)
  have after : t.after = t.stored.after carried := by
    rw [Turn.after, course, Object.after_append, Object.after_of_unstored t.stored unstored]
  have stores : ∃ exchange ∈ carried, exchange.storesStatus := by
    obtain ⟨exchange, found, stores⟩ := stores
    rw [course] at found
    obtain found | found := List.mem_append.mp found
    · rw [(unstored exchange found).1] at stores
      cases stores
    · exact ⟨exchange, found, stores⟩
  obtain rfl | ⟨actor, move, preempts⟩ | ⟨actor, work, decision, o, works⟩ := ends
  · simp at stores
  · obtain ⟨overdue, -⟩ | ⟨due, -⟩ := Object.preempting_cases preempts.preempting
    · obtain ⟨phase, current, -⟩ := Object.phase_of_isOverdue overdue
      cases new.symm.trans current
    · simp [Object.isToBeDeleted, undeleted] at due
  · -- an object without a phase is enrolled as it is
    have begins := works.works
    rw [new] at begins
    obtain ⟨rfl, ⟨⟩⟩ := takes_done.mp begins
    obtain ⟨result?, carries⟩ := works.carries
    rw [after]
    apply Task.hasFinalizer_of_enroll carries stores

/-- A turn takes an object to its deletion only if that is requested. -/
theorem Goes.requested_of_deleting (h : t.Goes ns name)
    (deleting : t.after.phase = some .deleting) :
  t.stored.phase = some .deleting ∨ t.stored.isDeletionRequested
  := by
  obtain ⟨-, same⟩ | ⟨-, o, move, moves, after⟩ := h.status
  · exact .inl ((Object.phase_congr same).symm.trans deleting)
  have moved : t.after.phase = some move.phase := Object.phase_congr after
  have deletes : move.phase = .deleting := Option.some.inj (moved.symm.trans deleting)
  cases moves with
  | preempts preempts =>
    obtain ⟨-, rfl⟩ | ⟨due, -⟩ := Object.preempting_cases preempts.preempting
    · cases deletes
    · simp only [Object.isToBeDeleted, Bool.and_eq_true] at due
      exact .inr due.1.1
  | works _ leads makes => exact leads.requested_of_deleting makes deletes

/-- A turn leaves the finalizers of others. -/
theorem Goes.otherFinalizers (h : t.Goes ns name) :
  t.after.otherFinalizers = t.stored.otherFinalizers
  := by
  rw [Object.otherFinalizers, Object.otherFinalizers]
  obtain same | ⟨-, -, -, added⟩ | ⟨-, -, removed⟩ := h.finalizers
  · rw [same]
  · rw [added]
    simp
  · rw [removed, List.filter_filter]
    simp

end Turn

/-! ## Runs -/

/-- The finalizer of the operator is among those of an object at most once, and it is there
unless the object has no phase yet, or is to be deleted and is on its way there. -/
structure Object.Secured (o : Object K) : Prop where
  once : o.finalizerCount ≤ 1
  missing : ¬ o.hasFinalizer → o.phase = none ∨
    o.isDeletionRequested ∧ (o.phase = some .deleting ∨ o.phase = some .failed)
  requested : o.phase = some .deleting → o.isDeletionRequested

namespace Object.Secured

variable {o o' : Object K} {t : Turn K}

theorem of_status_eq_none (fresh : o.status = none) (once : o.finalizerCount ≤ 1) :
  o.Secured
  where
  once := once
  missing _ := .inl (by simp [Object.phase, fresh])
  requested deleting := by simp [Object.phase, fresh] at deleting

theorem edited (h : o.Secured) (edit : o.FinalizerEdit o') :
  o'.Secured
  where
  once := edit.once
  missing lacks := by
    rw [phase_congr edit.status]
    obtain new | ⟨requested, deleting⟩ := h.missing fun has => lacks (edit.kept has)
    · exact .inl new
    · exact .inr ⟨edit.requested requested, deleting⟩
  requested := by
    rw [phase_congr edit.status]
    exact fun deleting => edit.requested (h.requested deleting)

/-- A turn adds the finalizer of the operator where it is missing, so it is there once. -/
theorem once_after (h : t.stored.Secured) (goes : t.Goes ns name) :
  t.after.finalizerCount ≤ 1
  := by
  rw [finalizerCount]
  obtain same | ⟨-, -, lacks, added⟩ | ⟨-, -, removed⟩ := goes.finalizers
  · rw [same]
    apply h.once
  · rw [hasFinalizer_iff, finalizerCount] at lacks
    rw [added, List.count_append, List.count_singleton_self]
    omega
  · rw [removed, List.count_eq_zero_of_not_mem (by simp)]
    apply Nat.zero_le

/-- A turn that leaves an object without the finalizer of the operator leaves it without a
phase, or finds that it is to be deleted. -/
theorem missing_after (h : t.stored.Secured) (goes : t.Goes ns name)
    (lacks : ¬ t.after.hasFinalizer) :
  t.after.phase = none ∨ t.stored.isDeletionRequested ∧
    (t.after.phase = some .deleting ∨ t.after.phase = some .failed)
  := by
  have deleted (requested : t.stored.isDeletionRequested)
      (before : t.stored.phase = some .deleting ∨ t.stored.phase = some .failed) :
      t.after.phase = some .deleting ∨ t.after.phase = some .failed := by
    by_cases stores : t.StoresStatus
    · apply goes.phase_of_requested requested stores
    · obtain ⟨-, same⟩ | ⟨stores', -⟩ := goes.status
      · rw [phase_congr same]
        apply before
      · cases stores stores'
  obtain same | ⟨-, -, -, added⟩ | ⟨deleting, -, -⟩ := goes.finalizers
  · rw [hasFinalizer_congr same] at lacks
    obtain new | ⟨requested, before⟩ := h.missing lacks
    · obtain ⟨-, same⟩ | ⟨stores, -⟩ := goes.status
      · exact .inl ((phase_congr same).trans new)
      by_cases requested : t.stored.isDeletionRequested
      · exact .inr ⟨requested, goes.phase_of_requested requested stores⟩
      · have has := goes.hasFinalizer_of_enrolled new requested stores
        rw [hasFinalizer_congr same] at has
        cases lacks has
    · exact .inr ⟨requested, deleted requested before⟩
  · rw [hasFinalizer, added] at lacks
    cases lacks (by simp)
  · have requested := h.requested deleting
    exact .inr ⟨requested, deleted requested (.inl deleting)⟩

theorem turned (h : t.stored.Secured) (goes : t.Goes ns name) :
  t.after.Secured
  where
  once := h.once_after goes
  missing lacks := by
    rw [Turn.after, isDeletionRequested_after]
    apply h.missing_after goes lacks
  requested deleting := by
    rw [Turn.after, isDeletionRequested_after]
    obtain before | requested := goes.requested_of_deleting deleting
    · apply h.requested before
    · apply requested

theorem hasFinalizer_of_engaged (h : o.Secured) (engaged : o.phase ∈ Phase.engaged) :
  o.hasFinalizer
  := by
  by_cases has : o.hasFinalizer
  · apply has
  obtain new | ⟨-, deleting | failed⟩ := h.missing has
  · simp [Phase.engaged, new] at engaged
  · simp [Phase.engaged, deleting] at engaged
  · simp [Phase.engaged, failed] at engaged

end Object.Secured

namespace Run

variable {initial o : Object K} {turns : List (Turn K)}

theorem secured (run : Run Object.FinalizerEdit ns name initial turns o)
    (fresh : initial.status = none) (once : initial.finalizerCount ≤ 1) :
  o.Secured
  := by
  apply run.keeps (p := (·.Secured)) _ _ (.of_status_eq_none fresh once)
  · exact fun edit secured => secured.edited edit
  · exact fun goes secured => secured.turned goes

/-- The creation of a remote resource is asked for only where the finalizer of the operator is
stored; the finalizer is stored exactly once as long as the remote resource is to be there; and
no turn changes the finalizers of others. -/
theorem finalizer_in_place (run : Run Object.FinalizerEdit ns name initial turns o)
    (fresh : initial.status = none) (once : initial.finalizerCount ≤ 1) :
  (∀ t ∈ turns, t.AsksToCreate → t.stored.hasFinalizer) ∧
    (o.phase ∈ Phase.engaged → o.finalizerCount = 1) ∧
    ∀ t ∈ turns, t.after.otherFinalizers = t.stored.otherFinalizers
  := by
  refine ⟨?_, ?_, ?_⟩
  · intro t found asks
    obtain ⟨goes, earlier, -, run⟩ := run.of_mem found
    have creating := goes.creating_of_asksToCreate asks
    apply (run.secured fresh once).hasFinalizer_of_engaged
    simp [Phase.engaged, creating]
  · intro engaged
    have secured := run.secured fresh once
    have has := (Object.hasFinalizer_iff o).mp (secured.hasFinalizer_of_engaged engaged)
    apply Nat.le_antisymm secured.once has
  · intro t found
    obtain ⟨goes, -⟩ := run.of_mem found
    apply goes.otherFinalizers

/-- The project `payments` before its first pass, where somebody else keeps it. -/
def auditedPayments : Object .project where
  metadata := { Object.payments.metadata with finalizers := some ["audit"] }
  spec := Object.payments.spec
  status := none

/-- The turn that enrolls the project. -/
def auditedPayments.enrolling : Turn .project :=
  .ofProject 0 auditedPayments (Turn.reportOn "Active") none

/-- The project once somebody else keeps it, too, and has put their finalizer first. -/
def auditedPayments.shared : Object .project :=
  auditedPayments.enrolling.after.withFinalizers
    ("backup" :: auditedPayments.enrolling.after.metadata.finalizerList)

/-- The turn that creates its remote resource. -/
def auditedPayments.creating : Turn .project :=
  .ofProject 1 shared (Turn.reportOn "Active") none

theorem finalizer_in_place_payments :
  auditedPayments.creating.sent = [(.post, "/projects")] ∧
    auditedPayments.creating.after.metadata.finalizerList
      = ["backup", "audit", Kind.finalizer .project] ∧
    (∀ t ∈ [auditedPayments.creating, auditedPayments.enrolling],
      t.AsksToCreate → t.stored.hasFinalizer) ∧
    (auditedPayments.creating.after.phase ∈ Phase.engaged →
      auditedPayments.creating.after.finalizerCount = 1) ∧
    ∀ t ∈ [auditedPayments.creating, auditedPayments.enrolling],
      t.after.otherFinalizers = t.stored.otherFinalizers
  := by
  have edit : auditedPayments.enrolling.after.FinalizerEdit auditedPayments.shared :=
    { status := rfl
      requested := by decide +kernel
      kept := by decide +kernel
      once := by decide +kernel }
  have run : Run Object.FinalizerEdit "shop" "payments" auditedPayments
      [auditedPayments.creating, auditedPayments.enrolling] auditedPayments.creating.after := by
    apply turned _ (Turn.goes_ofProject ..)
    apply edited _ edit
    apply turned _ (Turn.goes_ofProject ..)
    apply start
  refine ⟨by decide +kernel, by decide +kernel, run.finalizer_in_place rfl ?_⟩
  decide +kernel

end Run

end CloudOperator
