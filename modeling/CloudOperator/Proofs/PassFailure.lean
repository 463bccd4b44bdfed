import CloudOperator.Proofs.Moves

/-!
# Passes that fail

A pass fails because the object could not be loaded, because it names no tenant, because the
tenant could not be authenticated, or because a write of the object was refused
(`Turn.FailsFor`).  What the remote API answers, and references that cannot be resolved, are
told in the status and never fail a pass.

A pass that fails leaves the status and what is remembered of the writes as they were.  All that
it can store is the finalizer of the operator, which is written before the first status
(`Turn.Goes.fails_locally`).
-/

namespace CloudOperator

open Program

variable {K : Kind}

namespace Exchange

/-- The cause for which a write is refused, if the exchange is one. -/
def refusal? : Exchange Operation.Answer → Option StoreFailure
  | ⟨.writeStatus _ _, .error cause⟩ => some cause
  | ⟨.writeFinalizers _ _, .error cause⟩ => some cause
  | _ => none

theorem unstored_of_refusal? {exchange : Exchange Operation.Answer} {cause : StoreFailure}
    (refused : exchange.refusal? = some cause) :
  exchange.storesStatus = false ∧ exchange.storesFinalizers = false
  := by
  unfold refusal? at refused
  split at refused
  · exact ⟨rfl, rfl⟩
  · exact ⟨rfl, rfl⟩
  · cases refused

end Exchange

/-! ## Decisions that cannot be carried out -/

namespace Task

variable {t t' : Task K} {settings : PassSettings} {now : Instant} {course : Course}
  {failure : PassFailure}

/-- How carrying out a decision fails for a cause, by its course: a write is refused and nothing
is stored before it; or the finalizer of an object that is enrolled is stored, and then the
write of its status is refused. -/
inductive FailsOn (t : Task K) (decision : Decision) (cause : StoreFailure) : Course → Prop
  | refused {first : Course} {exchange : Exchange Operation.Answer}
      (silent : ∀ exchange ∈ first, exchange.isSilent)
      (refusal : exchange.refusal? = some cause) :
      FailsOn t decision cause (first ++ [exchange])
  | halfway {o answer : Object K} (enrolls : decision = .enroll)
      (unkept : ¬ t.object.hasFinalizer) :
      FailsOn t decision cause
        [⟨.writeFinalizers K t.object.addFinalizer, .ok answer⟩, ⟨.writeStatus K o, .error cause⟩]

theorem failsOn_singleton {decision : Decision} {cause : StoreFailure}
    {exchange : Exchange Operation.Answer} (refusal : exchange.refusal? = some cause) :
  t.FailsOn decision cause [exchange]
  := by
  rw [← List.nil_append [exchange]]
  exact .refused (by simp) refusal

/-- A move fails only where the write of the status is refused. -/
theorem fails_move {move : Move}
    (h : (t.move settings move now).Takes course (some (.error failure, t'))) :
  ∃ cause, failure = .persistence cause ∧ t'.history = t.history ∧
    course = [⟨.writeStatus K (t.object.moved move now), .error cause⟩]
  := by
  obtain ⟨-, ⟨⟩⟩ | ⟨wait?, first, second, rfl, decides, goes⟩ := takes_bind.mp h
  obtain ⟨rfl, -⟩ := takes_ofOption.mp decides
  cases wait? with
  | some duration =>
    obtain ⟨-, ⟨⟩⟩ | ⟨answer, rest, rfl, ends⟩ := takes_question_bind.mp goes
    obtain ⟨-, ⟨⟩⟩ := takes_done.mp ends
  | none =>
    obtain ⟨-, ⟨⟩⟩ | ⟨answer, rest, rfl, ends⟩ := takes_question_bind.mp goes
    cases answer with
    | error cause =>
      obtain ⟨rfl, ⟨⟩⟩ := takes_done.mp ends
      exact ⟨cause, rfl, rfl, rfl⟩
    | ok stored =>
      dsimp only at ends
      split at ends
      · obtain ⟨-, ⟨⟩⟩ | ⟨_, rest', rfl, returns⟩ := takes_question_bind.mp ends
        obtain ⟨-, ⟨⟩⟩ := takes_done.mp returns
      · obtain ⟨-, ⟨⟩⟩ := takes_done.mp ends

theorem fails_writeFinalizers {o : Object K}
    (h : (t.writeFinalizers o).Takes course (some (.error failure, t'))) :
  ∃ cause, failure = .persistence cause ∧ t'.history = t.history ∧
    course = [⟨.writeFinalizers K o, .error cause⟩]
  := by
  obtain ⟨-, ⟨⟩⟩ | ⟨answer, rest, rfl, ends⟩ := takes_question_bind.mp h
  cases answer with
  | error cause =>
    obtain ⟨rfl, ⟨⟩⟩ := takes_done.mp ends
    exact ⟨cause, rfl, rfl, rfl⟩
  | ok answer =>
    obtain ⟨-, ⟨⟩⟩ := takes_done.mp ends

theorem fails_enroll (h : (t.enroll settings now).Takes course (some (.error failure, t'))) :
  ∃ cause, failure = .persistence cause ∧ t'.history = t.history ∧ t.FailsOn .enroll cause course
  := by
  obtain ⟨-, ⟨⟩⟩ | ⟨⟨kept, t₁⟩, first, second, rfl, keeps, goes⟩ := takes_bind.mp h
  rw [keep] at keeps
  split at keeps
  · obtain ⟨rfl, ⟨⟩⟩ := takes_done.mp keeps
    obtain ⟨cause, rfl, same, rfl⟩ := fails_move goes
    exact ⟨cause, rfl, same, failsOn_singleton rfl⟩
  rcases kept with cause | _
  · obtain ⟨rfl, ⟨⟩⟩ := takes_done.mp goes
    obtain ⟨cause, rfl, same, rfl⟩ := fails_writeFinalizers keeps
    exact ⟨cause, rfl, same, failsOn_singleton rfl⟩
  · obtain ⟨-, fails, -⟩ | ⟨answer, rfl, ⟨⟩⟩ := takes_writeFinalizers keeps
    · cases fails t₁ rfl
    · obtain ⟨cause, rfl, same, rfl⟩ := fails_move goes
      exact ⟨cause, rfl, same, .halfway rfl ‹_›⟩

theorem fails_release (h : t.release.Takes course (some (.error failure, t'))) :
  ∃ cause, failure = .persistence cause ∧ t'.history = t.history ∧
    t.FailsOn .release cause course
  := by
  obtain ⟨-, ⟨⟩⟩ | ⟨⟨released, t₁⟩, first, second, rfl, releases, goes⟩ := takes_bind.mp h
  rcases released with cause | _
  · obtain ⟨rfl, ⟨⟩⟩ := takes_done.mp goes
    rw [letGo] at releases
    split at releases
    · obtain ⟨cause, rfl, same, rfl⟩ := fails_writeFinalizers releases
      exact ⟨cause, rfl, same, failsOn_singleton rfl⟩
    · obtain ⟨-, ⟨⟩⟩ := takes_done.mp releases
  · obtain ⟨-, ⟨⟩⟩ := takes_done.mp goes

/-- A decision cannot be carried out only where a write is refused, and then nothing is
forgotten or remembered. -/
theorem fails_carryOut {decision : Decision}
    (h : (t.carryOut settings now decision).Takes course (some (.error failure, t'))) :
  ∃ cause, failure = .persistence cause ∧ t'.history = t.history ∧ t.FailsOn decision cause course
  := by
  cases decision with
  | rest | wait => obtain ⟨-, ⟨⟩⟩ := takes_done.mp h
  | move move =>
    obtain ⟨cause, rfl, same, rfl⟩ := fails_move h
    exact ⟨cause, rfl, same, failsOn_singleton rfl⟩
  | fail cause =>
    obtain ⟨-, ⟨⟩⟩ | ⟨answer, rest, rfl, goes⟩ := takes_question_bind.mp h
    obtain ⟨cause, rfl, same, rfl⟩ := fails_move goes
    refine ⟨cause, rfl, same, .refused (List.forall_mem_singleton.mpr ?_) rfl⟩
    exact ⟨rfl, rfl, rfl⟩
  | enroll => exact fails_enroll h
  | release => exact fails_release h

end Task

/-! ## Turns that fail -/

namespace Turn

variable {ns name : String} {t : Turn K} {failure : PassFailure} {memory : Memory}

/-- Why a turn fails, by one rule for each cause: the object is not loaded; its tenant is blank;
its tenant is not authenticated; or the last write is refused. -/
inductive FailsFor (t : Turn K) (ns name : String) : PassFailure → Prop
  | unloaded {cause : StoreFailure} (course : t.course = [⟨.load K ns name, .error cause⟩]) :
      FailsFor t ns name (.load cause)
  | tenantless (course : t.course = [⟨.load K ns name, .ok (some t.stored)⟩])
      (blank : trimBlanks t.stored.tenant = "") : FailsFor t ns name .noTenant
  | unauthenticated {cause : AccessFailure} {tokens : TokenCache} {opening : Course}
      (course : t.course = ⟨.load K ns name, .ok (some t.stored)⟩ :: opening)
      (authenticates : (t.memory.tokens.authenticate (trimBlanks t.stored.tenant) t.settings.realm
        t.now).Takes opening (some (.error cause, tokens))) :
      FailsFor t ns name (.authentication cause)
  | refused {cause : StoreFailure} {first : Course} {exchange : Exchange Operation.Answer}
      (course : t.course = first ++ [exchange]) (refusal : exchange.refusal? = some cause) :
      FailsFor t ns name (.persistence cause)

/-- The turn stores the finalizer of the operator in an object without a phase, and then the
write of its status is refused. -/
structure EnrollsHalfway (t : Turn K) : Prop where
  fresh : t.stored.phase = none
  unkept : ¬ t.stored.hasFinalizer
  stored : ∃ answer, t.after = t.stored.addFinalizer.adoptVersion answer
  refused : ∃ first o cause, t.course = first ++ [⟨.writeStatus K o, .error cause⟩]

/-- What a turn leaves where it fails: nothing is changed, or the object is enrolled halfway. -/
structure FailsLocally (t : Turn K) (memory : Memory) : Prop where
  status : t.after.status = t.stored.status
  writes : memory.writes = t.memory.writes
  stored : t.after = t.stored ∨ t.EnrollsHalfway

theorem FailsLocally.of_after_eq (same : t.after = t.stored)
    (writes : memory.writes = t.memory.writes) :
  t.FailsLocally memory
  where
  status := by rw [same]
  writes := writes
  stored := .inl same

/-- A turn fails for the write at its end that is refused, and changes nothing if nothing is
stored before it. -/
theorem fails_of_refusal {first : Course} {exchange : Exchange Operation.Answer}
    {cause : StoreFailure} (course : t.course = first ++ [exchange])
    (unstored : ∀ exchange ∈ first,
      exchange.storesStatus = false ∧ exchange.storesFinalizers = false)
    (refusal : exchange.refusal? = some cause) (writes : memory.writes = t.memory.writes) :
  t.FailsFor ns name (.persistence cause) ∧ t.FailsLocally memory
  := by
  refine ⟨.refused course refusal, .of_after_eq ?_ writes⟩
  apply Object.after_of_unstored
  rw [course, List.forall_mem_append, List.forall_mem_singleton]
  exact ⟨unstored, Exchange.unstored_of_refusal? refusal⟩

/-- A turn whose decision cannot be carried out fails for the write that is refused. -/
theorem Works.fails {actor : Actor} {work carried : Course} {decision : Decision} {o : Object K}
    {cause : StoreFailure} (works : t.Works ns name actor work carried decision o)
    (fails : Task.FailsOn ⟨o, t.memory.writes⟩ decision cause carried)
    (writes : memory.writes = t.memory.writes) :
  t.FailsFor ns name (.persistence cause) ∧ t.FailsLocally memory
  := by
  obtain ⟨opening, course, -, unwritten⟩ := works.split
  have opened : ∀ exchange ∈ opening ++ work,
      exchange.storesStatus = false ∧ exchange.storesFinalizers = false :=
    fun exchange found => Exchange.unstored_of_isWrite (unwritten exchange found)
  cases fails with
  | refused silent refusal =>
    rw [← List.append_assoc] at course
    apply fails_of_refusal course _ refusal writes
    exact List.forall_mem_append.mpr ⟨opened, fun exchange found => (silent exchange found).2⟩
  | @halfway o' answer enrolls unkept =>
    subst enrolls
    -- only an object without a phase is enrolled, and then the work leaves it as it is
    obtain ⟨fresh⟩ := Work.leads works.works
    have after : t.after = t.stored.addFinalizer.adoptVersion answer := by
      rw [Turn.after, course, Object.after_append, Object.after_of_unstored _ opened,
        Object.after_cons, Object.afterExchange_writeFinalizers]
      rfl
    rw [List.append_cons] at course
    refine ⟨.refused course rfl, ?_, writes, .inr ⟨fresh, unkept, ⟨answer, after⟩, ?_⟩⟩
    · rw [after]
      rfl
    · exact ⟨_, o', cause, course⟩

/-- A turn fails for one of the listed causes, and then it leaves the status and what is
remembered of the writes as they were. -/
theorem Goes.fails_locally (h : t.Goes ns name)
    (fails : t.result? = some (.error failure, memory)) :
  t.FailsFor ns name failure ∧ t.FailsLocally memory
  := by
  cases h.begins with
  | givenUp quiet ends => cases ends.symm.trans fails
  | missing course ends => cases ends.symm.trans fails
  | unloaded course ends =>
    cases ends.symm.trans fails
    refine ⟨.unloaded course, .of_after_eq ?_ rfl⟩
    apply Object.after_of_isQuiet _ (isQuiet_of_load course)
  | tenantless course blank ends =>
    cases ends.symm.trans fails
    refine ⟨.tenantless course blank, .of_after_eq ?_ rfl⟩
    apply Object.after_of_isQuiet _ (isQuiet_of_load course)
  | unauthenticated course authenticates ends =>
    cases ends.symm.trans fails
    refine ⟨.unauthenticated course authenticates, .of_after_eq ?_ rfl⟩
    apply Object.after_of_isQuiet _ (isQuiet_of_authenticates course authenticates)
  | reaches reaches =>
    obtain ⟨tokens, result?, proceeds, ends, -⟩ := h.proceeds reaches
    rw [ends] at fails
    obtain ⟨⟨_, t'⟩, rfl, ⟨⟩⟩ := Option.map_eq_some_iff.mp fails
    obtain ⟨move, -, moves⟩ | ⟨unpreempted, ⟨-, ⟨⟩⟩ | ⟨decision, o, work, carried, rfl, works,
      carries⟩⟩ := Task.takes_proceed proceeds
    · obtain ⟨cause, rfl, same, rfl⟩ := Task.fails_move moves
      obtain ⟨opening, course, quiet⟩ := isQuiet_of_reaches reaches
      apply fails_of_refusal course _ rfl same
      exact fun exchange found => Exchange.unstored_of_isWrite (quiet exchange found).2
    · obtain ⟨cause, rfl, same, failsOn⟩ := Task.fails_carryOut carries
      have does : t.Works ns name _ work carried decision o :=
        ⟨reaches, unpreempted, works, _, carries⟩
      apply does.fails failsOn same

/-- The finalizer of a project is stored, and then its first status is refused. -/
theorem fails_locally_of_payments :
  ∃ (t : Turn .project) (memory : Memory), t.Goes "shop" "payments" ∧
    t.result? = some (.error (.persistence (.conflict "shop" "payments")), memory) ∧
    t.FailsFor "shop" "payments" (.persistence (.conflict "shop" "payments")) ∧
    t.FailsLocally memory ∧ ¬ t.stored.hasFinalizer ∧ t.after.hasFinalizer
  := by
  have goes := goes_ofProject 0 .payments ⟨200, ""⟩ (some (.conflict "shop" "payments"))
  obtain ⟨memory, fails⟩ : ∃ memory,
      (ofProject 0 .payments ⟨200, ""⟩ (some (.conflict "shop" "payments"))).result?
        = some (.error (.persistence (.conflict "shop" "payments")), memory) :=
    ⟨_, rfl⟩
  obtain ⟨cause, locally⟩ := goes.fails_locally fails
  exact ⟨_, memory, goes, fails, cause, locally, by decide +kernel, by decide +kernel⟩

end Turn

end CloudOperator
