import CloudOperator.Proofs.Counting
import CloudOperator.Proofs.Spacing

/-!
# The metrics account for what is stored

The phase transitions that are counted are those that passes stored, and the writes that are
counted as put off are those that passes skipped (`CountedBy.accounts`).

The counting is done where a move is made: before the end of one that has to wait, and after a
write that enters a phase (`Task.Accounts`).  A turn makes one move at most, so it counts at most
one of the two, and nothing if the write is rejected (`Turn.Tallied`, `Turn.Goes.tallied`).  The
metrics of a process follow, in whatever order its passes count.
-/

namespace CloudOperator

open Program Course

variable {K : Kind} {ns name : String}

/-! ## Counts that are not waited for -/

namespace Program

variable {α β : Type}

/-- A program is left where it counts.  No pass is, since a count is not waited for. -/
def PendsCount (program : Pass α) (course : Course) : Prop :=
  ∃ counter, program.Pends course (.count counter)

theorem PendsCount.answered {operation : Operation} {next : operation.Answer → Pass α}
    {answer : operation.Answer} {course : Course} (h : (next answer).PendsCount course) :
  (ask operation next).PendsCount (⟨operation, answer⟩ :: course)
  := by
  obtain ⟨counter, pends⟩ := h
  exact ⟨counter, .answered pends⟩

theorem PendsCount.bind {program : Pass α} {f : α → Pass β} {course : Course}
    (h : program.PendsCount course) :
  (program.bind f).PendsCount course
  := by
  obtain ⟨counter, pends⟩ := h
  exact ⟨counter, pends.bind⟩

theorem Takes.pendsCount_bind {program : Pass α} {f : α → Pass β} {first second : Course}
    {result : α} (h : program.Takes first (some result)) (pends : (f result).PendsCount second) :
  (program.bind f).PendsCount (first ++ second)
  := by
  obtain ⟨counter, pends⟩ := pends
  exact ⟨counter, h.pends_bind pends⟩

/-- A program that is not left where it counts goes on so after its first question. -/
theorem takes_question_bind_of_prompt {operation : Operation} {next : operation.Answer → Pass α}
    {course : Course} {result? : Option α}
    (h : ((Program.question operation).bind next).Takes course result?)
    (prompt : ¬ ((Program.question operation).bind next).PendsCount course) :
  course = [] ∧ result? = none ∨
    ∃ answer rest, course = ⟨operation, answer⟩ :: rest ∧ (next answer).Takes rest result? ∧
      ¬ (next answer).PendsCount rest
  := by
  obtain ended | ⟨answer, rest, rfl, goes⟩ := takes_question_bind.mp h
  · exact .inl ended
  · exact .inr ⟨answer, rest, rfl, goes, fun pends => prompt (PendsCount.answered pends)⟩

theorem takes_count_bind {counter : Counter} {next : Unit → Pass α} {course : Course}
    {result? : Option α} (h : ((Program.question (.count counter)).bind next).Takes course result?)
    (prompt : ¬ ((Program.question (.count counter)).bind next).PendsCount course) :
  ∃ rest, course = ⟨.count counter, ()⟩ :: rest ∧ (next ()).Takes rest result? ∧
    ¬ (next ()).PendsCount rest
  := by
  obtain ⟨rfl, -⟩ | ⟨⟨⟩, goes⟩ := takes_question_bind_of_prompt h prompt
  · cases prompt ⟨counter, .asked ..⟩
  · exact goes

end Program

/-- Whether a write of a status is rejected. -/
def Exchange.rejectsStatus : Exchange Operation.Answer → Bool
  | ⟨.writeStatus _ _, .error _⟩ => true
  | _ => false

theorem Exchange.rejectsStatus_of_isWrite {exchange : Exchange Operation.Answer}
    (unwritten : exchange.question.isWrite = false) :
  exchange.rejectsStatus = false
  := by
  obtain ⟨question, answer⟩ := exchange
  cases question with
  | writeStatus K o => cases unwritten
  | _ => rfl

/-! ## What a move counts -/

namespace Task

variable {t : Task K} {settings : PassSettings} {now : Instant} {move : Move} {course : Course}
  {result? : Option (Outcome K)}

/-- What comes of a move, and what is counted of it: it stays in its phase and is put off; or it is
written, which is counted if it enters its phase; or it is not written, and the pass does not end
well. -/
inductive Accounts (t : Task K) (settings : PassSettings) (move : Move) (now : Instant)
    (course : Course) (result? : Option (Outcome K)) : Prop
  | waits (stays : t.object.phase = some move.phase)
      (unstored : ∀ exchange ∈ course, exchange.storesStatus = false)
      (accepted : ∀ exchange ∈ course, exchange.rejectsStatus = false)
      (ends : ∃ directive t', result? = some (.ok directive, t'))
      (tallies : tallies course = [.debouncedWrites K.name])
  | writes (writes : t.Writes settings move now course result?)
      (accepted : ∀ exchange ∈ course, exchange.rejectsStatus = false)
      (tallies : tallies course =
        if t.object.phase = some move.phase then [] else [.phaseTransitions K.name move.phase.name])
  | stops (unstored : ∀ exchange ∈ course, exchange.storesStatus = false)
      (fails : ∀ directive t', result? ≠ some (.ok directive, t'))
      (tallies : tallies course = [])

/-- What neither counts nor writes a status does not matter for a move that comes after it. -/
theorem Accounts.cons (h : t.Accounts settings move now course result?)
    {exchange : Exchange Operation.Answer} (untold : exchange.question.isTally = false)
    (unstored : exchange.storesStatus = false) (accepted : exchange.rejectsStatus = false) :
  t.Accounts settings move now (exchange :: course) result?
  := by
  have same : tallies (exchange :: course) = tallies course := tallies_cons_of_untold untold
  cases h with
  | waits stays unstored' accepted' ends tallies =>
    exact .waits stays (List.forall_mem_cons.mpr ⟨unstored, unstored'⟩)
      (List.forall_mem_cons.mpr ⟨accepted, accepted'⟩) ends (same.trans tallies)
  | writes writes accepted' tallies =>
    exact .writes (writes.cons exchange) (List.forall_mem_cons.mpr ⟨accepted, accepted'⟩)
      (same.trans tallies)
  | stops unstored' fails tallies =>
    exact .stops (List.forall_mem_cons.mpr ⟨unstored, unstored'⟩) fails (same.trans tallies)

theorem accounts_move (h : (t.move settings move now).Takes course result?)
    (prompt : ¬ (t.move settings move now).PendsCount course) :
  t.Accounts settings move now course result?
  := by
  have writes := writes_move h
  obtain ⟨decides, rfl⟩ | ⟨wait?, first, second, rfl, decides, goes⟩ := takes_bind.mp h
  · obtain ⟨rfl, -⟩ := takes_ofOption.mp decides
    exact .stops (by simp) (by simp) rfl
  have prompt := fun pends => prompt (decides.pendsCount_bind pends)
  obtain ⟨rfl, due⟩ := takes_ofOption.mp decides
  rw [List.nil_append] at writes ⊢
  cases wait? with
  | some duration =>
    obtain ⟨rest, rfl, ends, -⟩ := takes_count_bind goes prompt
    obtain ⟨rfl, rfl⟩ := takes_done.mp ends
    have stays : t.object.phase = some move.phase := by
      apply Classical.byContradiction
      intro leaving
      rw [Object.debounce?_of_leaving leaving] at due
      cases due
    exact .waits stays (List.forall_mem_singleton.mpr rfl) (List.forall_mem_singleton.mpr rfl)
      ⟨_, _, rfl⟩ rfl
  | none =>
    obtain ⟨rfl, rfl⟩ | ⟨answer, rest, rfl, ends, prompt⟩ :=
      takes_question_bind_of_prompt goes prompt
    · exact .stops (by simp) (by simp) rfl
    cases answer with
    | error cause =>
      obtain ⟨rfl, rfl⟩ := takes_done.mp ends
      exact .stops (List.forall_mem_singleton.mpr rfl) (by simp) rfl
    | ok stored =>
      have writes := writes.resolve_left fun unstored => by
        cases unstored.1 _ List.mem_cons_self
      by_cases stays : t.object.phase = some move.phase
      · dsimp only at ends
        rw [if_neg (not_not_intro stays)] at ends
        obtain ⟨rfl, rfl⟩ := takes_done.mp ends
        exact .writes writes (List.forall_mem_singleton.mpr rfl) (if_pos stays).symm
      · dsimp only at ends prompt
        rw [if_pos stays] at ends prompt
        obtain ⟨rest, rfl, returns, -⟩ := takes_count_bind ends prompt
        obtain ⟨rfl, rfl⟩ := takes_done.mp returns
        exact .writes writes (List.forall_mem_cons.mpr ⟨rfl, List.forall_mem_singleton.mpr rfl⟩)
          (if_neg stays).symm

/-- A write of finalizers neither counts anything nor stores a status. -/
theorem untold_writeFinalizers {o : Object K} {kept? : Option (Except PassFailure Unit × Task K)}
    (h : (t.writeFinalizers o).Takes course kept?) :
  tallies course = [] ∧ ∀ exchange ∈ course, exchange.storesStatus = false
  := by
  obtain ⟨rfl, -⟩ | ⟨answer, rest, rfl, ends⟩ := takes_question_bind.mp h
  · exact ⟨rfl, by simp⟩
  cases answer with
  | error | ok =>
    obtain ⟨rfl, -⟩ := takes_done.mp ends
    exact ⟨rfl, List.forall_mem_singleton.mpr rfl⟩

/-- An object that is enrolled is kept first, and then makes its first move. -/
theorem accounts_enroll (h : (t.enroll settings now).Takes course result?)
    (prompt : ¬ (t.enroll settings now).PendsCount course) :
  t.Accounts settings .initialized now course result?
  := by
  obtain ⟨keeps, rfl⟩ | ⟨⟨kept, t'⟩, first, second, rfl, keeps, goes⟩ := takes_bind.mp h
  · rw [keep] at keeps
    split at keeps
    · cases keeps
    · obtain ⟨untold, unstored⟩ := untold_writeFinalizers keeps
      exact .stops unstored (by simp) untold
  have prompt := fun pends => prompt (keeps.pendsCount_bind pends)
  rw [keep] at keeps
  split at keeps
  · obtain ⟨rfl, ⟨⟩⟩ := takes_done.mp keeps
    exact accounts_move goes prompt
  obtain ⟨untold, unstored⟩ := untold_writeFinalizers keeps
  obtain ⟨-, fails, -⟩ | ⟨answer, rfl, ⟨⟩⟩ := takes_writeFinalizers keeps
  · cases kept with
    | error cause =>
      obtain ⟨rfl, rfl⟩ := takes_done.mp goes
      rw [List.append_nil]
      exact .stops unstored (by simp) untold
    | ok => exact absurd rfl (fails t')
  -- the finalizer changes nothing that the first move depends on
  have accounts : t.Accounts settings .initialized now second result? := by
    cases accounts_move goes prompt with
    | waits stays unstored accepted ends tallies =>
      exact .waits stays unstored accepted ends tallies
    | writes writes accepted tallies => exact .writes writes.of_addFinalizer accepted tallies
    | stops unstored fails tallies => exact .stops unstored fails tallies
  exact accounts.cons rfl rfl rfl

/-- Carrying out a decision that makes a move counts what comes of the move. -/
theorem accounts_carryOut {decision : Decision} (makes : decision.move? t.object = some move)
    (h : (t.carryOut settings now decision).Takes course result?)
    (prompt : ¬ (t.carryOut settings now decision).PendsCount course) :
  t.Accounts settings move now course result?
  := by
  cases decision with
  | move m =>
    cases makes
    exact accounts_move h prompt
  | enroll =>
    cases makes
    exact accounts_enroll h prompt
  | fail cause =>
    cases makes
    obtain ⟨rest, rfl, goes, prompt⟩ := takes_count_bind h prompt
    exact (accounts_move goes prompt).cons rfl rfl rfl
  | rest | wait | release => cases makes

/-- Carrying out a decision that makes no move counts nothing of the status. -/
theorem untold_carryOut {decision : Decision} (makes : decision.move? t.object = none)
    (h : (t.carryOut settings now decision).Takes course result?) :
  tallies course = []
  := by
  cases decision with
  | rest | wait =>
    obtain ⟨rfl, -⟩ := takes_done.mp h
    rfl
  | release =>
    have untold {course : Course} {kept? : Option (Except PassFailure Unit × Task K)}
        (releases : t.letGo.Takes course kept?) : tallies course = [] := by
      rw [letGo] at releases
      split at releases
      · exact (untold_writeFinalizers releases).1
      · obtain ⟨rfl, -⟩ := takes_done.mp releases
        rfl
    obtain ⟨releases, -⟩ | ⟨⟨cause | _, t'⟩, first, second, rfl, releases, goes⟩ :=
      takes_bind.mp h
    · exact untold releases
    · obtain ⟨rfl, -⟩ := takes_done.mp goes
      rw [List.append_nil, untold releases]
    · obtain ⟨rfl, -⟩ := takes_done.mp goes
      rw [List.append_nil, untold releases]
  | move | enroll | fail => cases makes

end Task

/-! ## What a turn counts -/

namespace Turn

variable {t : Turn K} {actor : Actor} {move : Move} {o : Object K}

/-- The turn is left where it counts. -/
def PendsCount (t : Turn K) (ns name : String) : Prop :=
  (t.memory.pass t.settings t.now K ns name).PendsCount t.course

/-- A turn with the course of a run is not left anywhere. -/
theorem not_pendsCount_of_run {σ : Type} {s : σ}
    {answer : (operation : Operation) → StateM σ operation.Answer}
    (course : t.course = (t.memory.pass t.settings t.now K ns name).courseIn answer s) :
  ¬ t.PendsCount ns name
  := by
  rintro ⟨counter, pends⟩
  rw [course] at pends
  exact not_pends_courseIn answer _ s _ pends

theorem not_pendsCount_taken {σ : Type} {memory : Memory} {settings : PassSettings} {now : Instant}
    {stored : Object K} {answer : (operation : Operation) → StateM σ operation.Answer} {s : σ} :
  ¬ (taken memory settings now stored ns name answer s).PendsCount ns name
  := not_pendsCount_of_run rfl

/-- The status that is stored goes from another phase to a given one. -/
def Enters (t : Turn K) (phase : Phase) : Prop :=
  t.stored.phase ≠ some phase ∧ t.after.phase = some phase

instance (phase : Phase) : Decidable (t.Enters phase) :=
  inferInstanceAs (Decidable (_ ∧ _))

/-- The turn skips a write of the status: it makes a move that stays in the phase, and ends well,
but stores no status. -/
def Skips (t : Turn K) (ns name : String) : Prop :=
  ∃ o move, t.Moves ns name o move ∧ t.stored.phase = some move.phase ∧ ¬ t.StoresStatus ∧
    ∃ directive memory, t.result? = some (.ok directive, memory)

/-- A write of the status is rejected. -/
def IsRejected (t : Turn K) : Prop :=
  ∃ exchange ∈ t.course, exchange.rejectsStatus

instance (t : Turn K) : Decidable t.IsRejected :=
  inferInstanceAs (Decidable (∃ exchange ∈ t.course, _))

/-- What a turn counts of what becomes of the status, by one rule for each way. -/
inductive Tallied (t : Turn K) (ns name : String) : List Counter → Prop
  | skips (skips : t.Skips ns name) (stays : ∀ phase, ¬ t.Enters phase)
      (accepted : ¬ t.IsRejected) : Tallied t ns name [.debouncedWrites K.name]
  | enters {phase : Phase} (enters : t.Enters phase) (writes : ¬ t.Skips ns name)
      (accepted : ¬ t.IsRejected) : Tallied t ns name [.phaseTransitions K.name phase.name]
  | neither (writes : ¬ t.Skips ns name) (stays : ∀ phase, ¬ t.Enters phase) :
      Tallied t ns name []

/-- Only a turn that stores a status takes it to another phase. -/
theorem Goes.not_enters (goes : t.Goes ns name) (unstored : ¬ t.StoresStatus) (phase : Phase) :
  ¬ t.Enters phase
  := by
  obtain ⟨-, same⟩ | ⟨stores, -⟩ := goes.status
  · rintro ⟨leaves, enters⟩
    rw [Object.phase_congr same] at enters
    exact leaves enters
  · cases unstored stores

/-- What a turn counts follows from what comes of the move at the end of its course. -/
theorem Moves.tallied {first carried : Course} {tokens : TokenCache}
    {result? : Option (Task.Outcome K)} (goes : t.Goes ns name) (moves : t.Moves ns name o move)
    (course : t.course = first ++ carried) (untold : tallies first = [])
    (unwritten : ∀ exchange ∈ first, exchange.question.isWrite = false)
    (accounts : Task.Accounts ⟨o, t.memory.writes⟩ t.settings move t.now carried result?)
    (ends : t.result? = result?.map fun (result, t') => (result, ⟨tokens, t'.history⟩)) :
  t.Tallied ns name (tallies t.course)
  := by
  have same : tallies t.course = tallies carried := by
    rw [course, tallies_append, untold, List.nil_append]
  have keeps := moves.keeps
  have unstored (none : ∀ exchange ∈ carried, exchange.storesStatus = false) :
      ¬ t.StoresStatus := by
    rintro ⟨exchange, found, stores⟩
    rw [course] at found
    rw [unstored_append unwritten none exchange found] at stores
    cases stores
  have accepted (none : ∀ exchange ∈ carried, exchange.rejectsStatus = false) : ¬ t.IsRejected := by
    rintro ⟨exchange, found, rejects⟩
    rw [course] at found
    obtain found | found := List.mem_append.mp found
    · rw [Exchange.rejectsStatus_of_isWrite (unwritten exchange found)] at rejects
      cases rejects
    · rw [none exchange found] at rejects
      cases rejects
  rw [same]
  cases accounts with
  | waits stays none unrejected returns tallies =>
    obtain ⟨directive, t', rfl⟩ := returns
    rw [tallies]
    refine .skips ⟨o, move, moves, ?_, unstored none, directive, _, ends⟩ ?_ (accepted unrejected)
    · rw [← keeps.phase]
      exact stays
    · exact goes.not_enters (unstored none)
  | writes writes unrejected tallies =>
    have writes := Writes.of_carried course moves writes ends
    have skips : ¬ t.Skips ns name := fun ⟨_, _, _, _, unstored, _⟩ => unstored writes.stores
    have after := (moves.shows writes.status).1
    rw [tallies]
    split
    · refine .neither skips fun phase ⟨leaves, enters⟩ => leaves ?_
      rw [← enters, after, ← keeps.phase]
      assumption
    · refine .enters ⟨?_, after⟩ skips (accepted unrejected)
      rw [← keeps.phase]
      assumption
  | stops none fails tallies =>
    rw [tallies]
    refine .neither ?_ (goes.not_enters (unstored none))
    rintro ⟨_, _, -, -, -, directive, memory, returns⟩
    rw [ends] at returns
    obtain ⟨⟨_, t'⟩, comes, ⟨⟩⟩ := Option.map_eq_some_iff.mp returns
    exact fails directive t' comes

/-- Up to the authentication a turn counts nothing of the status, and writes nothing. -/
theorem Reaches.untold {rest : Course} (reaches : t.Reaches ns name actor rest) :
  ∃ opening, t.course = opening ++ rest ∧ tallies opening = [] ∧
    ∀ exchange ∈ opening, exchange.question.isWrite = false
  := by
  obtain ⟨-, tokens, opening, course, authenticates⟩ := reaches
  refine ⟨_ :: opening, course, ?_, ?_⟩
  · exact tallies_of_untold (List.forall_mem_cons.mpr
      ⟨rfl, authenticates.asked (TokenCache.untold_authenticate ..)⟩)
  · exact List.forall_mem_cons.mpr ⟨rfl, fun exchange found =>
      (authenticates.asked (TokenCache.asks_authenticate ..) exchange found).2⟩

/-- A turn that does not reach the object counts nothing of the status. -/
theorem Goes.untold_or_reaches (h : t.Goes ns name) :
  tallies t.course = [] ∨ ∃ actor rest, t.Reaches ns name actor rest
  := by
  obtain ⟨rest, finds⟩ | idles := h.finds_or_idles
  · have serves := finds.serves h
    obtain ⟨course, present⟩ := finds
    have untold {opening : Course} {result? : Option (Except AccessFailure String × TokenCache)}
        (authenticates : t.authenticating.Takes opening result?) :
        tallies (⟨.load K ns name, .ok (some t.stored)⟩ :: opening) = [] :=
      tallies_of_untold (List.forall_mem_cons.mpr
        ⟨rfl, authenticates.asked (TokenCache.untold_authenticate ..)⟩)
    obtain ⟨stops, -⟩ | ⟨⟨cause | bearer, tokens⟩, opening, rest, rfl, authenticates, answers⟩ :=
      takes_bind.mp serves
    · rw [course]
      exact .inl (untold stops)
    · obtain ⟨rfl, -⟩ := takes_done.mp answers
      rw [course, List.append_nil]
      exact .inl (untold authenticates)
    · exact .inr ⟨⟨bearer, ns⟩, rest, rfl, tokens, opening, course, authenticates⟩
  · left
    apply tallies_of_untold
    intro exchange found
    rw [idles.asks _ (h.takes.poses found)]
    rfl

/-- A turn that reaches the object is left where what follows the authentication is left. -/
theorem Goes.pendsCount_of_proceed (h : t.Goes ns name) {rest : Course}
    (reaches : t.Reaches ns name actor rest)
    (pends : (Task.proceed ⟨t.stored, t.memory.writes⟩ t.settings actor t.now).PendsCount rest) :
  t.PendsCount ns name
  := by
  have tenant := h.tenant_ne reaches
  obtain ⟨rfl, tokens, opening, course, authenticates⟩ := reaches
  rw [PendsCount, course, Memory.pass_eq]
  apply Program.PendsCount.answered
  rw [Memory.receive, Memory.visit_of_told tenant]
  apply authenticates.pendsCount_bind
  exact pends.bind

/-- A turn that makes no move stores no status, and skips none. -/
theorem Goes.tallied_of_unmoved (h : t.Goes ns name) (unmoved : ∀ o move, ¬ t.Moves ns name o move)
    (untold : tallies t.course = []) :
  t.Tallied ns name (tallies t.course)
  := by
  rw [untold]
  refine .neither ?_ (h.not_enters ?_)
  · rintro ⟨o, move, moves, -⟩
    exact unmoved o move moves
  · obtain ⟨unstored, -⟩ | ⟨-, o, move, moves, -⟩ := h.status
    · exact unstored
    · cases unmoved o move moves

/-- A turn that is given up in the work of the phase makes no move. -/
theorem Stalls.unmoved {work : Course} (stalls : t.Stalls ns name actor work) (o : Object K)
    (move : Move) :
  ¬ t.Moves ns name o move
  := by
  rintro (preempts | ⟨works, -⟩)
  · cases stalls.unpreempted.symm.trans preempts.preempting
  · obtain ⟨rfl, rfl⟩ := stalls.reaches.unique works.reaches
    exact works.works.not_takes_none stalls.stalls

/-- Neither does one whose decision makes none. -/
theorem Works.unmoved {work carried : Course} {decision : Decision}
    (works : t.Works ns name actor work carried decision o) (makes : decision.move? o = none)
    (o' : Object K) (move : Move) :
  ¬ t.Moves ns name o' move
  := by
  rintro (preempts | ⟨works', -, makes'⟩)
  · cases works.unpreempted.symm.trans preempts.preempting
  · obtain ⟨-, -, rfl, rfl⟩ := works.unique works'
    cases makes.symm.trans makes'

/-- A turn that makes a move in place of the work counts what comes of it. -/
theorem Preempts.tallied {carried : Course} (preempts : t.Preempts ns name actor carried move)
    (goes : t.Goes ns name) (prompt : ¬ t.PendsCount ns name) :
  t.Tallied ns name (tallies t.course)
  := by
  obtain ⟨tokens, result?, carries, ends, -⟩ := preempts.carried goes
  obtain ⟨opening, course, untold, unwritten⟩ := preempts.reaches.untold
  have moves : t.Moves ns name t.stored move := .preempts preempts
  refine moves.tallied goes course untold unwritten (Task.accounts_move carries ?_) ends
  intro pends
  rw [← Task.proceed_of_preempting preempts.preempting] at pends
  exact prompt (goes.pendsCount_of_proceed preempts.reaches pends)

/-- A turn that does the work of the phase counts what comes of the move that its decision makes,
if it makes one. -/
theorem Works.tallied {work carried : Course} {decision : Decision}
    (works : t.Works ns name actor work carried decision o) (goes : t.Goes ns name)
    (prompt : ¬ t.PendsCount ns name) :
  t.Tallied ns name (tallies t.course)
  := by
  obtain ⟨tokens, result?, carries, ends, -⟩ := works.carried goes
  obtain ⟨opening, course, untold, unwritten⟩ := works.reaches.untold
  rw [← List.append_assoc] at course
  have worked : tallies (opening ++ work) = [] := by
    rw [tallies_append, untold, tallies_of_untold (works.works.asked (Work.untold_ofPhase ..))]
    rfl
  cases makes : decision.move? o with
  | none =>
    apply goes.tallied_of_unmoved (works.unmoved makes)
    rw [course, tallies_append, worked, Task.untold_carryOut makes carries]
    rfl
  | some move =>
    have moves : t.Moves ns name o move := .works works (Work.leads works.works) makes
    refine moves.tallied goes course worked ?_ (Task.accounts_carryOut makes carries ?_) ends
    · rw [List.forall_mem_append]
      exact ⟨unwritten, works.works.asked ((Work.asks_ofPhase ..).mono fun _ =>
        Operation.isWrite_of_sendsOnly)⟩
    · intro pends
      apply prompt (goes.pendsCount_of_proceed works.reaches _)
      rw [Task.proceed_of_unpreempted works.unpreempted]
      exact works.works.pendsCount_bind pends

/-- What a turn counts of what becomes of the status: what comes of the move that it makes, and
nothing if it makes none. -/
theorem Goes.tallied (h : t.Goes ns name) (prompt : ¬ t.PendsCount ns name) :
  t.Tallied ns name (tallies t.course)
  := by
  by_cases reached : ∃ actor rest, t.Reaches ns name actor rest
  · obtain ⟨actor, rest, reaches⟩ := reached
    obtain ⟨tokens, result?, proceeds, -⟩ := h.proceeds reaches
    obtain ⟨move, preempting, carries⟩ |
        ⟨unpreempted, ⟨stalls, -⟩ | ⟨decision, o, work, carried, rfl, works, carries⟩⟩ :=
      Task.takes_proceed proceeds
    · have preempts : t.Preempts ns name actor rest move :=
        ⟨reaches, preempting, result?, carries⟩
      exact preempts.tallied h prompt
    · have stalled : t.Stalls ns name actor rest := ⟨reaches, unpreempted, stalls⟩
      obtain ⟨opening, course, untold, -⟩ := reaches.untold
      apply h.tallied_of_unmoved stalled.unmoved
      rw [course, tallies_append, untold, tallies_of_untold (stalls.asked (Work.untold_ofPhase ..))]
      rfl
    · have does : t.Works ns name actor work carried decision o :=
        ⟨reaches, unpreempted, works, result?, carries⟩
      exact does.tallied h prompt
  · apply h.tallied_of_unmoved _ (h.untold_or_reaches.resolve_right reached)
    rintro o move (preempts | ⟨works, -⟩)
    · exact reached ⟨_, _, preempts.reaches⟩
    · exact reached ⟨_, _, works.reaches⟩

namespace Tallied

variable {counters : List Counter}

/-- What is counted of the phases is the one that is entered. -/
theorem count_phaseTransitions (h : t.Tallied ns name counters) (K' : Kind) (phase : Phase) :
  counters.count (.phaseTransitions K'.name phase.name) =
    if K = K' ∧ t.Enters phase then 1 else 0
  := by
  cases h with
  | skips _ stays => exact (if_neg fun enters => stays phase enters.2).symm
  | neither _ stays => exact (if_neg fun enters => stays phase enters.2).symm
  | @enters phase' enters =>
    rw [List.count_singleton]
    apply if_congr _ rfl rfl
    rw [beq_iff_eq, Counter.phaseTransitions.injEq]
    constructor
    · rintro ⟨kind, same⟩
      obtain rfl := Phase.name_injective same
      exact ⟨Kind.name_injective kind, enters⟩
    · rintro ⟨rfl, enters'⟩
      cases enters.2.symm.trans enters'.2
      exact ⟨rfl, rfl⟩

open scoped Classical in
/-- A write is counted as put off if it is skipped. -/
theorem count_debouncedWrites (h : t.Tallied ns name counters) (K' : Kind) :
  counters.count (.debouncedWrites K'.name) = if K = K' ∧ t.Skips ns name then 1 else 0
  := by
  cases h with
  | enters _ writes => exact (if_neg fun skips => writes skips.2).symm
  | neither writes => exact (if_neg fun skips => writes skips.2).symm
  | skips skips =>
    rw [List.count_singleton]
    apply if_congr _ rfl rfl
    rw [beq_iff_eq, Counter.debouncedWrites.injEq, and_iff_left skips]
    exact ⟨Kind.name_injective, congrArg Kind.name⟩

/-- Not both are counted. -/
theorem not_mem_of_mem (h : t.Tallied ns name counters) {kind phase : String}
    (counts : .phaseTransitions kind phase ∈ counters) (kind' : String) :
  .debouncedWrites kind' ∉ counters
  := by
  cases h with
  | skips =>
    cases List.mem_singleton.mp counts
  | enters =>
    rw [List.mem_singleton]
    nofun
  | neither => apply List.not_mem_nil

theorem eq_nil_of_isRejected (h : t.Tallied ns name counters) (rejected : t.IsRejected) :
  counters = []
  := by
  cases h with
  | skips _ _ accepted => cases accepted rejected
  | enters _ _ accepted => cases accepted rejected
  | neither => rfl

end Tallied

end Turn

/-! ## What passes count -/

namespace Visit

/-- On the visit the stored status of an object of a kind goes from another phase to a given
one. -/
def Enters (v : Visit) (K : Kind) (phase : Phase) : Prop :=
  v.kind = K ∧ v.turn.Enters phase

instance (v : Visit) (K : Kind) (phase : Phase) : Decidable (v.Enters K phase) :=
  inferInstanceAs (Decidable (_ ∧ _))

/-- On the visit a write of the status of an object of a kind is skipped. -/
def Skips (v : Visit) (K : Kind) : Prop :=
  v.kind = K ∧ v.turn.Skips v.ns v.name

/-- Something is counted on the visit. -/
def Counts (v : Visit) (counter : Counter) : Prop :=
  counter ∈ Course.counted v.turn.course

end Visit

/-- What a process counts while it makes passes over objects of any kinds.  The passes may
interleave, so that what they count of the statuses is counted in any order; what else is counted
is left open. -/
structure CountedBy (visits : List Visit) (counters : List Counter) : Prop where
  goes : ∀ v ∈ visits, v.turn.Goes v.ns v.name
  prompt : ∀ v ∈ visits, ¬ v.turn.PendsCount v.ns v.name
  tallies : (counters.filter Counter.isTally).Perm
    (visits.flatMap fun v => Course.tallies v.turn.course)

namespace CountedBy

variable {visits : List Visit} {counters : List Counter}

/-- Visits that each count a counter once or not at all count it as often as it is counted
once. -/
theorem count_flatMap {tallies : Visit → List Counter} {counter : Counter} {p : Visit → Prop}
    [DecidablePred p]
    (each : ∀ v ∈ visits, (tallies v).count counter = if p v then 1 else 0) :
  (visits.flatMap tallies).count counter = visits.countP fun v => decide (p v)
  := by
  induction visits with
  | nil => rfl
  | cons v visits ih =>
    obtain ⟨first, rest⟩ := List.forall_mem_cons.mp each
    rw [List.flatMap_cons, List.count_append, first, ih rest, List.countP_cons, Nat.add_comm]
    simp only [decide_eq_true_eq]

/-- A counter of what becomes of a status grows by the number of the passes that count it. -/
theorem value_eq (h : CountedBy visits counters) (m : Metrics) {counter : Counter}
    (tally : counter.isTally) {p : Visit → Prop} [DecidablePred p]
    (each : ∀ v ∈ visits, (Course.tallies v.turn.course).count counter = if p v then 1 else 0) :
  (m.countAll counters).value counter = m.value counter + visits.countP fun v => decide (p v)
  := by
  rw [Metrics.value_countAll, ← List.count_filter tally, h.tallies.count_eq, count_flatMap each]

theorem tallied (h : CountedBy visits counters) {v : Visit} (found : v ∈ visits) :
  v.turn.Tallied v.ns v.name (Course.tallies v.turn.course)
  := (h.goes v found).tallied (h.prompt v found)

/-- The transitions into a phase grow by the passes that enter it. -/
theorem value_phaseTransitions (h : CountedBy visits counters) (m : Metrics) (K : Kind)
    (phase : Phase) :
  (m.countAll counters).value (.phaseTransitions K.name phase.name) =
    m.value (.phaseTransitions K.name phase.name) +
      visits.countP fun v => decide (v.Enters K phase)
  := by
  apply h.value_eq m rfl
  exact fun v found => (h.tallied found).count_phaseTransitions K phase

open scoped Classical in
/-- The writes that are put off grow by the passes that skip one. -/
theorem value_debouncedWrites (h : CountedBy visits counters) (m : Metrics) (K : Kind) :
  (m.countAll counters).value (.debouncedWrites K.name) =
    m.value (.debouncedWrites K.name) + visits.countP fun v => decide (v.Skips K)
  := by
  apply h.value_eq m rfl
  exact fun v found => ((h.tallied found).count_debouncedWrites K).trans (if_congr Iff.rfl rfl rfl)

open scoped Classical in
/-- **The metrics account for what is stored.**  Over passes in any number, over objects of any
kinds:

* the phase transitions of a kind into a phase grow by the number of passes that took the stored
  status of an object of the kind from another phase to this one;
* the writes of a kind that were put off grow by the number of passes that skipped one;
* no pass counts both, and one whose write of the status is rejected counts neither. -/
theorem accounts (h : CountedBy visits counters) (m : Metrics) :
  (∀ (K : Kind) (phase : Phase),
    (m.countAll counters).value (.phaseTransitions K.name phase.name) =
      m.value (.phaseTransitions K.name phase.name) +
        visits.countP fun v => decide (v.Enters K phase)) ∧
  (∀ K : Kind,
    (m.countAll counters).value (.debouncedWrites K.name) =
      m.value (.debouncedWrites K.name) + visits.countP fun v => decide (v.Skips K)) ∧
  ∀ v ∈ visits,
    (∀ kind phase kind', v.Counts (.phaseTransitions kind phase) →
      ¬ v.Counts (.debouncedWrites kind')) ∧
    (v.turn.IsRejected → ∀ kind, (∀ phase, ¬ v.Counts (.phaseTransitions kind phase)) ∧
      ¬ v.Counts (.debouncedWrites kind))
  := by
  refine ⟨h.value_phaseTransitions m, h.value_debouncedWrites m, fun v found => ?_⟩
  · have tallied := h.tallied found
    refine ⟨fun kind phase kind' enters skips => ?_, fun rejected kind => ?_⟩
    · exact tallied.not_mem_of_mem (mem_tallies enters rfl) kind' (mem_tallies skips rfl)
    · have none {counter : Counter} (tally : counter.isTally) : ¬ v.Counts counter := by
        intro counts
        have found := mem_tallies counts tally
        rw [tallied.eq_nil_of_isRejected rejected] at found
        cases found
      exact ⟨fun phase => none rfl, none rfl⟩

namespace Payments

open Run (Payments.creating SpacedPayments.early SpacedPayments.goes_again)

/-- The project enters the phase in which it is waited for. -/
def entering : Visit :=
  ⟨.project, "shop", "payments", Payments.creating⟩

/-- It is looked at once more, too early for another write of its status. -/
def skipping : Visit :=
  ⟨.project, "shop", "payments", SpacedPayments.early⟩

/-- Its remote resource is found ready, but somebody wrote the project in between. -/
def rejected : Visit where
  kind := .project
  ns := "shop"
  name := "payments"
  turn := .ofProject 20 Payments.creating.after (Turn.reportOn "Active")
    (some (.conflict "shop" "payments"))

/-- The passes one after the other. -/
def passes : List Visit :=
  [entering, skipping, rejected]

/-- What they count. -/
def counted : List Counter :=
  passes.flatMap fun v => Course.counted v.turn.course

theorem countedBy :
  CountedBy passes counted
  where
  goes := by
    refine List.forall_mem_cons.mpr ⟨Turn.goes_ofProject .., List.forall_mem_cons.mpr ⟨?_, ?_⟩⟩
    · exact SpacedPayments.goes_again ..
    · exact List.forall_mem_singleton.mpr (Turn.goes_ofProject ..)
  prompt := by
    refine List.forall_mem_cons.mpr ⟨?_, List.forall_mem_cons.mpr ⟨?_, ?_⟩⟩
    · exact Turn.not_pendsCount_taken
    · exact Turn.not_pendsCount_taken
    · exact List.forall_mem_singleton.mpr Turn.not_pendsCount_taken
  tallies := by
    rw [counted, List.filter_flatMap]
    rfl

theorem shown :
  (Metrics.countAll [] counted).value (.phaseTransitions "ArubaProject" "Provisioning") = 1 ∧
    (Metrics.countAll [] counted).value (.debouncedWrites "ArubaProject") = 1 ∧
    rejected.turn.IsRejected
  := by
  decide +kernel

end Payments

open scoped Classical in
/-- One of three passes enters a phase, one skips a write, and the write of one is rejected. -/
theorem accounts_payments :
  (Payments.passes.countP fun v => decide (v.Enters .project .provisioning)) = 1 ∧
    (Payments.passes.countP fun v => decide (v.Skips .project)) = 1 ∧
    ¬ Payments.rejected.Counts (.phaseTransitions "ArubaProject" "Created") ∧
    ¬ Payments.rejected.Counts (.debouncedWrites "ArubaProject")
  := by
  obtain ⟨entered, skipped, rejected⟩ := Payments.shown
  obtain ⟨enters, skips, alone⟩ := accounts Payments.countedBy []
  have uncounted := (alone Payments.rejected (by simp [Payments.passes])).2 rejected "ArubaProject"
  refine ⟨?_, ?_, uncounted.1 "Created", uncounted.2⟩
  · have grows := (enters .project .provisioning).symm.trans entered
    exact (Nat.zero_add _).symm.trans grows
  · have grows := (skips .project).symm.trans skipped
    exact (Nat.zero_add _).symm.trans grows

end CountedBy

end CloudOperator
