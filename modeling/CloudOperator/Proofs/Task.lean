import CloudOperator.Proofs.Stored
import CloudOperator.Reconcile.Task

/-!
# Courses of carrying out decisions

Carrying out a decision sends nothing to the remote API, and what it stores is told by
the decision: the status of the object after the move that the decision makes of it, or
none (`writes_carryOut`), and the finalizers of an object that is enrolled or released,
or none (`finalizers_carryOut`).  A move that has to wait stores nothing (`waits_carryOut`).
-/

namespace CloudOperator

open Program

/-- The move that a decision makes of an object, if it makes one. -/
def Decision.move? {K : Kind} (o : Object K) : Decision → Option Move
  | .move m => some m
  | .enroll => some .initialized
  | .fail cause => some (.ofFailure (o.phase.getD .creating) cause)
  | .rest | .wait _ | .release => none

namespace Task

variable {K : Kind} {t : Task K} {settings : PassSettings} {now : Instant} {course : Course}

/-! ## What is asked -/

theorem asks_move (t : Task K) (settings : PassSettings) (move : Move) (now : Instant) :
  (t.move settings move now).Asks (·.isLocal)
  := by
  apply asks_bind asks_ofOption
  rintro (_ | duration)
  · apply asks_question_bind
    · rfl
    rintro (cause | stored)
    · trivial
    · dsimp only
      split
      · apply asks_question_bind
        · rfl
        intro _
        trivial
      · trivial
  · apply asks_question_bind
    · rfl
    intro _
    trivial

theorem asks_writeFinalizers (t : Task K) (o : Object K) :
  (t.writeFinalizers o).Asks (·.isLocal)
  := by
  apply asks_question_bind
  · rfl
  rintro (cause | stored)
  · trivial
  · trivial

theorem asks_carryOut (t : Task K) (settings : PassSettings) (now : Instant)
    (decision : Decision) :
  (t.carryOut settings now decision).Asks (·.isLocal)
  := by
  cases decision with
  | rest => trivial
  | wait duration => trivial
  | move move => apply asks_move
  | fail cause =>
    apply asks_question_bind
    · rfl
    intro _
    apply asks_move
  | enroll =>
    apply asks_bind
    · rw [keep]
      split
      · trivial
      · apply asks_writeFinalizers
    rintro ⟨cause | _, t'⟩
    · trivial
    · apply asks_move
  | release =>
    apply asks_bind
    · rw [letGo]
      split
      · apply asks_writeFinalizers
      · trivial
    rintro ⟨cause | _, t'⟩
    · trivial
    · trivial

/-! ## What is stored and remembered -/

/-- Whatever comes of it, the task remembers the writes that it remembered. -/
def Remembers {ρ : Type} (t : Task K) (result? : Option (ρ × Task K)) : Prop :=
  ∀ result t', result? = some (result, t') → t'.history = t.history

theorem remembers_none {ρ : Type} :
  t.Remembers (none : Option (ρ × Task K))
  := by
  rintro _ _ ⟨⟩

theorem remembers_some {ρ : Type} {result : ρ} {t' : Task K} (same : t'.history = t.history) :
  t.Remembers (some (result, t'))
  := by
  rintro _ _ ⟨⟩
  apply same

/-- A move is written on a course: it does not have to wait, the status that is stored is that
of the moved object, and the write is remembered. -/
structure Writes (t : Task K) (settings : PassSettings) (move : Move) (now : Instant)
    (course : Course) (result? : Option (Outcome K)) : Prop where
  due : t.object.debounce? t.history settings.requeueInterval move now = some none
  stores : ∃ exchange ∈ course, exchange.storesStatus
  status : ∀ s : Object K, (s.after course).status = (t.object.moved move now).status
  recorded : ∀ result t', result? = some (result, t') →
    t'.history = t.history.record t.object.key move.phase now

/-- A move stores nothing, or it is due and stores the status of the moved object and nothing
else. -/
theorem takes_move {move : Move} {result? : Option (Outcome K)}
    (h : (t.move settings move now).Takes course result?) :
  (∀ exchange ∈ course, exchange.isSilent) ∧ t.Remembers result? ∨
    (∀ exchange ∈ course, exchange.storesFinalizers = false) ∧
      t.Writes settings move now course result?
  := by
  obtain ⟨decides, rfl⟩ | ⟨wait?, first, second, rfl, decides, goes⟩ := takes_bind.mp h
  · obtain ⟨rfl, -⟩ := takes_ofOption.mp decides
    exact .inl ⟨by simp, remembers_none⟩
  obtain ⟨rfl, due⟩ := takes_ofOption.mp decides
  rw [List.nil_append]
  cases wait? with
  | some duration =>
    obtain ⟨rfl, rfl⟩ | ⟨answer, rest, rfl, ends⟩ := takes_question_bind.mp goes
    · exact .inl ⟨by simp, remembers_none⟩
    · obtain ⟨rfl, rfl⟩ := takes_done.mp ends
      exact .inl ⟨List.forall_mem_singleton.mpr ⟨rfl, rfl, rfl⟩, remembers_some rfl⟩
  | none =>
    obtain ⟨rfl, rfl⟩ | ⟨answer, rest, rfl, ends⟩ := takes_question_bind.mp goes
    · exact .inl ⟨by simp, remembers_none⟩
    cases answer with
    | error cause =>
      obtain ⟨rfl, rfl⟩ := takes_done.mp ends
      exact .inl ⟨List.forall_mem_singleton.mpr ⟨rfl, rfl, rfl⟩, remembers_some rfl⟩
    | ok stored =>
      right
      obtain ⟨silent, recorded⟩ : (∀ exchange ∈ rest, exchange.isSilent) ∧
          ∀ result t', result? = some (result, t') →
            t'.history = t.history.record t.object.key move.phase now := by
        dsimp only at ends
        split at ends
        · obtain ⟨rfl, rfl⟩ | ⟨_, rest', rfl, returns⟩ := takes_question_bind.mp ends
          · exact ⟨by simp, by rintro _ _ ⟨⟩⟩
          · obtain ⟨rfl, rfl⟩ := takes_done.mp returns
            exact ⟨List.forall_mem_singleton.mpr ⟨rfl, rfl, rfl⟩, by rintro _ _ ⟨⟩; rfl⟩
        · obtain ⟨rfl, rfl⟩ := takes_done.mp ends
          exact ⟨by simp, by rintro _ _ ⟨⟩; rfl⟩
      constructor
      · exact List.forall_mem_cons.mpr ⟨rfl, fun exchange found => (silent exchange found).2.2⟩
      · refine ⟨due.symm, ⟨_, List.mem_cons_self, rfl⟩, fun s => ?_, recorded⟩
        rw [Object.after_cons, Object.afterExchange_writeStatus,
          Object.after_of_isSilent _ silent, Object.status_storing]

/-- A move stores no finalizers. -/
theorem unstored_finalizers_move {move : Move} {result? : Option (Outcome K)}
    (h : (t.move settings move now).Takes course result?) :
  ∀ exchange ∈ course, exchange.storesFinalizers = false
  := by
  obtain ⟨silent, -⟩ | ⟨unstored, -⟩ := takes_move h
  · exact fun exchange found => (silent exchange found).2.2
  · apply unstored

/-- A move leaves the status and what is remembered, or it is written. -/
theorem writes_move {move : Move} {result? : Option (Outcome K)}
    (h : (t.move settings move now).Takes course result?) :
  (∀ exchange ∈ course, exchange.storesStatus = false) ∧ t.Remembers result? ∨
    t.Writes settings move now course result?
  := by
  obtain ⟨silent, remembers⟩ | ⟨-, writes⟩ := takes_move h
  · exact .inl ⟨fun exchange found => (silent exchange found).2.1, remembers⟩
  · exact .inr writes

theorem Writes.cons {move : Move} {result? : Option (Outcome K)}
    (h : t.Writes settings move now course result?) (exchange : Exchange Operation.Answer) :
  t.Writes settings move now (exchange :: course) result?
  where
  due := h.due
  stores := by
    obtain ⟨stored, found, stores⟩ := h.stores
    exact ⟨stored, List.mem_cons_of_mem _ found, stores⟩
  status s := h.status (s.afterExchange exchange)
  recorded := h.recorded

/-- A finalizer changes nothing that a move depends on. -/
theorem Writes.of_addFinalizer {answer : Object K} {move : Move} {result? : Option (Outcome K)}
    (h : Writes ⟨t.object.addFinalizer.adoptVersion answer, t.history⟩ settings move now course
      result?) :
  t.Writes settings move now course result?
  := ⟨h.due, h.stores, h.status, h.recorded⟩

/-- A write of finalizers stores nothing and fails, or stores the finalizers that are
then in hand. -/
theorem takes_writeFinalizers {o : Object K}
    {result? : Option (Except PassFailure Unit × Task K)}
    (h : (t.writeFinalizers o).Takes course result?) :
  ((∀ exchange ∈ course, exchange.isSilent) ∧ (∀ t', result? ≠ some (.ok (), t')) ∧
      t.Remembers result?) ∨
    ∃ answer, course = [⟨.writeFinalizers K o, .ok answer⟩] ∧
      result? = some (.ok (), { t with object := o.adoptVersion answer })
  := by
  obtain ⟨rfl, rfl⟩ | ⟨answer, rest, rfl, ends⟩ := takes_question_bind.mp h
  · exact .inl ⟨by simp, by simp, remembers_none⟩
  cases answer with
  | error cause =>
    obtain ⟨rfl, rfl⟩ := takes_done.mp ends
    exact .inl ⟨List.forall_mem_singleton.mpr ⟨rfl, rfl, rfl⟩, by simp, remembers_some rfl⟩
  | ok answer =>
    obtain ⟨rfl, rfl⟩ := takes_done.mp ends
    exact .inr ⟨answer, rfl, rfl⟩

/-- Enrolling an object keeps it first, unless it is kept already, and then makes the first move
of an object that has the same status and the same generation. -/
theorem takes_enroll {result? : Option (Outcome K)}
    (h : (t.enroll settings now).Takes course result?) :
  ((∀ exchange ∈ course, exchange.isSilent) ∧ t.Remembers result?) ∨
    t.object.hasFinalizer ∧ (t.move settings .initialized now).Takes course result? ∨
    ¬ t.object.hasFinalizer ∧ ∃ answer rest,
      course = ⟨.writeFinalizers K t.object.addFinalizer, .ok answer⟩ :: rest ∧
        (Task.move ⟨t.object.addFinalizer.adoptVersion answer, t.history⟩ settings .initialized
          now).Takes rest result?
  := by
  obtain ⟨keeps, rfl⟩ | ⟨⟨kept, t'⟩, first, second, rfl, keeps, goes⟩ := takes_bind.mp h
  · rw [keep] at keeps
    split at keeps
    · cases keeps
    · obtain ⟨silent, -⟩ | ⟨answer, -, ⟨⟩⟩ := takes_writeFinalizers keeps
      exact .inl ⟨silent, remembers_none⟩
  · rw [keep] at keeps
    split at keeps
    · obtain ⟨rfl, ⟨⟩⟩ := takes_done.mp keeps
      exact .inr (.inl ⟨‹_›, goes⟩)
    · obtain ⟨silent, fails, remembers⟩ | ⟨answer, rfl, ⟨⟩⟩ := takes_writeFinalizers keeps
      · cases kept with
        | error cause =>
          obtain ⟨rfl, rfl⟩ := takes_done.mp goes
          rw [List.append_nil]
          exact .inl ⟨silent, remembers_some (remembers _ _ rfl)⟩
        | ok => exact absurd rfl (fails t')
      · exact .inr (.inr ⟨‹_›, answer, second, rfl, goes⟩)

/-- Releasing an object stores nothing, or the finalizers without that of the operator; what
is remembered is forgotten only if it is done. -/
theorem takes_release {result? : Option (Outcome K)} (h : t.release.Takes course result?) :
  ((∀ exchange ∈ course, exchange.isSilent) ∨
    t.object.hasFinalizer ∧
      ∃ answer, course = [⟨.writeFinalizers K t.object.removeFinalizer, .ok answer⟩]) ∧
  (t.Remembers result? ∨ ∃ t', result? = some (.ok .done, t'))
  := by
  obtain ⟨releases, rfl⟩ | ⟨⟨released, t'⟩, first, second, rfl, releases, goes⟩ :=
    takes_bind.mp h
  · refine ⟨.inl ?_, .inl remembers_none⟩
    rw [letGo] at releases
    split at releases
    · obtain ⟨silent, -⟩ | ⟨answer, -, ⟨⟩⟩ := takes_writeFinalizers releases
      apply silent
    · cases releases
  · rw [letGo] at releases
    split at releases
    · obtain ⟨silent, fails, remembers⟩ | ⟨answer, rfl, ⟨⟩⟩ := takes_writeFinalizers releases
      · cases released with
        | error cause =>
          obtain ⟨rfl, rfl⟩ := takes_done.mp goes
          rw [List.append_nil]
          exact ⟨.inl silent, .inl (remembers_some (remembers _ _ rfl))⟩
        | ok => exact absurd rfl (fails t')
      · obtain ⟨rfl, rfl⟩ := takes_done.mp goes
        exact ⟨.inr ⟨‹_›, answer, rfl⟩, .inr ⟨_, rfl⟩⟩
    · obtain ⟨rfl, ⟨⟩⟩ := takes_done.mp releases
      obtain ⟨rfl, rfl⟩ := takes_done.mp goes
      exact ⟨.inl (by simp), .inr ⟨_, rfl⟩⟩

/-- Carrying out a decision leaves the status as it is stored, and what is remembered unless
the object is released; or the move that the decision makes of the object is written. -/
theorem writes_carryOut {decision : Decision} {result? : Option (Outcome K)}
    (h : (t.carryOut settings now decision).Takes course result?) :
  (∀ exchange ∈ course, exchange.storesStatus = false) ∧
      (t.Remembers result? ∨ decision = .release ∧ ∃ t', result? = some (.ok .done, t')) ∨
    ∃ move, decision.move? t.object = some move ∧ t.Writes settings move now course result?
  := by
  have unstored (silent : ∀ exchange ∈ course, exchange.isSilent) :
      ∀ exchange ∈ course, exchange.storesStatus = false :=
    fun exchange found => (silent exchange found).2.1
  cases decision with
  | rest =>
    obtain ⟨rfl, rfl⟩ := takes_done.mp h
    exact .inl ⟨by simp, .inl (remembers_some rfl)⟩
  | wait duration =>
    obtain ⟨rfl, rfl⟩ := takes_done.mp h
    exact .inl ⟨by simp, .inl (remembers_some rfl)⟩
  | move m =>
    obtain ⟨none, remembers⟩ | writes := writes_move h
    · exact .inl ⟨none, .inl remembers⟩
    · exact .inr ⟨m, rfl, writes⟩
  | fail cause =>
    obtain ⟨rfl, rfl⟩ | ⟨_, rest, rfl, goes⟩ := takes_question_bind.mp h
    · exact .inl ⟨by simp, .inl remembers_none⟩
    obtain ⟨none, remembers⟩ | writes := writes_move goes
    · exact .inl ⟨List.forall_mem_cons.mpr ⟨rfl, none⟩, .inl remembers⟩
    · exact .inr ⟨_, rfl, writes.cons _⟩
  | enroll =>
    obtain ⟨silent, remembers⟩ | ⟨-, goes⟩ | ⟨-, answer, rest, rfl, goes⟩ := takes_enroll h
    · exact .inl ⟨unstored silent, .inl remembers⟩
    · obtain ⟨none, remembers⟩ | writes := writes_move goes
      · exact .inl ⟨none, .inl remembers⟩
      · exact .inr ⟨_, rfl, writes⟩
    · obtain ⟨none, remembers⟩ | writes := writes_move goes
      · exact .inl ⟨List.forall_mem_cons.mpr ⟨rfl, none⟩, .inl remembers⟩
      · exact .inr ⟨_, rfl, writes.of_addFinalizer.cons _⟩
  | release =>
    obtain ⟨silent | ⟨-, answer, rfl⟩, remembers | done⟩ := takes_release h
    · exact .inl ⟨unstored silent, .inl remembers⟩
    · exact .inl ⟨unstored silent, .inr ⟨rfl, done⟩⟩
    · exact .inl ⟨List.forall_mem_singleton.mpr rfl, .inl remembers⟩
    · exact .inl ⟨List.forall_mem_singleton.mpr rfl, .inr ⟨rfl, done⟩⟩

/-! ## Moves that wait, and moves that are due -/

/-- A move that has to wait stores nothing, and asks for another pass after its time. -/
theorem waits_move {move : Move} {duration : Nat} {result? : Option (Outcome K)}
    (waits : t.object.debounce? t.history settings.requeueInterval move now = some (some duration))
    (h : (t.move settings move now).Takes course result?) :
  (∀ exchange ∈ course, exchange.storesStatus = false) ∧
    (result? = some (.ok (.after duration), t) ∨ (t.move settings move now).Awaits course)
  := by
  have same : t.move settings move now = (Program.question (.count (.debouncedWrites K.name))).bind
      fun _ => .done (.ok (.after duration), t) := by
    rw [Task.move, waits]
    rfl
  rw [same] at h ⊢
  obtain ⟨rfl, rfl⟩ | ⟨answer, rest, rfl, ends⟩ := takes_question_bind.mp h
  · exact ⟨by simp, .inr (awaits_question _ _)⟩
  · obtain ⟨rfl, rfl⟩ := takes_done.mp ends
    exact ⟨List.forall_mem_singleton.mpr rfl, .inl rfl⟩

theorem waits_carryOut {decision : Decision} {move : Move} {duration : Nat}
    {result? : Option (Outcome K)} (makes : decision.move? t.object = some move)
    (enrolled : decision ≠ .enroll)
    (waits : t.object.debounce? t.history settings.requeueInterval move now = some (some duration))
    (h : (t.carryOut settings now decision).Takes course result?) :
  (∀ exchange ∈ course, exchange.storesStatus = false) ∧
    (result? = some (.ok (.after duration), t) ∨
      (t.carryOut settings now decision).Awaits course)
  := by
  cases decision with
  | move m =>
    cases makes
    apply waits_move waits h
  | fail cause =>
    cases makes
    obtain ⟨rfl, rfl⟩ | ⟨answer, rest, rfl, goes⟩ := takes_question_bind.mp h
    · exact ⟨by simp, .inr (awaits_question _ _)⟩
    · obtain ⟨unstored, ends⟩ := waits_move waits goes
      exact ⟨List.forall_mem_cons.mpr ⟨rfl, unstored⟩, ends.imp_right .answered⟩
  | enroll => cases enrolled rfl
  | rest | wait | release => cases makes

/-- The status is written at once if a move is due. -/
theorem asked_move {move : Move} {result? : Option (Outcome K)}
    (due : t.object.debounce? t.history settings.requeueInterval move now = some none)
    (h : (t.move settings move now).Takes course result?) :
  (t.move settings move now).Awaits course ∨
    ∃ answer rest, course = ⟨.writeStatus K (t.object.moved move now), answer⟩ :: rest
  := by
  obtain ⟨next, same⟩ : ∃ next, t.move settings move now
      = (Program.question (.writeStatus K (t.object.moved move now))).bind next := by
    rw [Task.move, due]
    exact ⟨_, rfl⟩
  rw [same] at h ⊢
  obtain ⟨rfl, rfl⟩ | ⟨answer, rest, rfl, -⟩ := takes_question_bind.mp h
  · exact .inl (awaits_question _ _)
  · exact .inr ⟨answer, rest, rfl⟩

/-! ## What is stored of the finalizers -/

/-- Carrying out a decision leaves the finalizers as they are stored, or stores those of
an object that is enrolled or released; one that is kept already is not kept once more. -/
theorem finalizers_carryOut {decision : Decision} {result? : Option (Outcome K)}
    (h : (t.carryOut settings now decision).Takes course result?) :
  (∀ exchange ∈ course, exchange.storesFinalizers = false) ∨
    decision = .enroll ∧ ¬ t.object.hasFinalizer ∧
      (∀ s : Object K, (s.after course).metadata.finalizerList
        = t.object.metadata.finalizerList ++ [K.finalizer]) ∨
    decision = .release ∧ (∀ s : Object K, (s.after course).metadata.finalizerList
      = t.object.metadata.finalizerList.filter (· ≠ K.finalizer))
  := by
  have unstored (silent : ∀ exchange ∈ course, exchange.isSilent) :
      ∀ exchange ∈ course, exchange.storesFinalizers = false :=
    fun exchange found => (silent exchange found).2.2
  cases decision with
  | rest =>
    obtain ⟨rfl, -⟩ := takes_done.mp h
    simp
  | wait duration =>
    obtain ⟨rfl, -⟩ := takes_done.mp h
    simp
  | move m => exact .inl (unstored_finalizers_move h)
  | fail cause =>
    obtain ⟨rfl, -⟩ | ⟨_, rest, rfl, goes⟩ := takes_question_bind.mp h
    · simp
    · exact .inl (List.forall_mem_cons.mpr ⟨rfl, unstored_finalizers_move goes⟩)
  | enroll =>
    obtain ⟨silent, -⟩ | ⟨-, goes⟩ | ⟨lacks, answer, rest, rfl, goes⟩ := takes_enroll h
    · exact .inl (unstored silent)
    · exact .inl (unstored_finalizers_move goes)
    · refine .inr (.inl ⟨rfl, lacks, fun s => ?_⟩)
      rw [Object.after_cons, Object.afterExchange_writeFinalizers,
        Object.finalizerList_after (unstored_finalizers_move goes),
        Object.finalizerList_storingFinalizers]
      rfl
  | release =>
    obtain ⟨silent | ⟨-, answer, rfl⟩, -⟩ := takes_release h
    · exact .inl (unstored silent)
    · refine .inr (.inr ⟨rfl, fun s => ?_⟩)
      rw [Object.after_cons, Object.afterExchange_writeFinalizers, Object.after_nil,
        Object.finalizerList_storingFinalizers]
      rfl

end Task

end CloudOperator
