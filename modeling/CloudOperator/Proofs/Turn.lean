import CloudOperator.Proofs.Task
import CloudOperator.Proofs.Work
import CloudOperator.Reconcile.Pass

/-!
# Turns

A turn is a pass over an object with the course that it takes.  Either it asks nothing
that matters, or it reaches the object on behalf of its tenant, and then a move comes
before the work of the phase (`Turn.Preempts`), or the work is done and the decision
that follows is carried out (`Turn.Works`).

* `Memory.pass_eq` takes a pass apart: it loads its object, authenticates the tenant
  (`Memory.visit`) and serves the object (`Memory.serve`).
* `Turn.Goes.begins` tells how a turn begins, and `Turn.Goes.cases` are these cases.
* `Turn.Preempts.carried` and `Turn.Works.carried` tell what the result of a turn is, and
  where it is given up (`Turn.GivenUp`).
* `Turn.Works.unique` says that the course of a turn determines what it works.
* `Turn.goes_taken` says that a pass that is run goes such a turn.
-/

namespace CloudOperator

open Program

/-- A tenant is authenticated by its secret and a token, and it is counted what comes of it. -/
theorem TokenCache.asks_authenticate_of {may : Operation → Prop}
    (accesses : ∀ operation, operation.isAccess → may operation)
    (hits : may (.count .tokenCacheHits))
    (exchanges : ∀ result, may (.count (.tokenExchanges result))) (cache : TokenCache)
    (tenant realm : String) (now : Instant) :
  (cache.authenticate tenant realm now).Asks may
  := by
  apply asks_bind
  · apply asks_bind asks_ofOption
    intro token?
    split
    · apply asks_question_bind hits
      intro _
      trivial
    · trivial
  rintro (_ | token)
  · apply asks_bind
    · apply asks_question_bind (accesses _ rfl)
      rintro (cause | secret)
      · trivial
      · trivial
    rintro (cause | credentials)
    · trivial
    apply asks_question_bind (accesses _ rfl)
    rintro (cause | token)
    · apply asks_question_bind (exchanges _)
      intro _
      trivial
    · apply asks_question_bind (exchanges _)
      intro _
      trivial
  · trivial

theorem TokenCache.asks_authenticate (cache : TokenCache) (tenant realm : String)
    (now : Instant) :
  (cache.authenticate tenant realm now).Asks Operation.isQuiet
  := asks_authenticate_of (fun _ => Operation.isQuiet_of_isAccess) (Operation.isQuiet_count _)
    (fun _ => Operation.isQuiet_count _) cache tenant realm now

/-- An authentication asks at least for a count. -/
theorem TokenCache.course_ne_nil_of_authenticate {cache : TokenCache} {tenant realm : String}
    {now : Instant} {course : Course} {result : Except AccessFailure String × TokenCache}
    (h : (cache.authenticate tenant realm now).Takes course (some result)) :
  course ≠ []
  := by
  rintro rfl
  obtain ⟨-, ⟨⟩⟩ | ⟨token?, first, second, nothing, hits, goes⟩ := takes_bind.mp h
  obtain ⟨rfl, rfl⟩ := List.append_eq_nil_iff.mp nothing.symm
  obtain ⟨-, ⟨⟩⟩ | ⟨active?, first, second, nothing, -, counts⟩ := takes_bind.mp hits
  obtain ⟨rfl, rfl⟩ := List.append_eq_nil_iff.mp nothing.symm
  cases active? with
  | some token => cases counts
  | none =>
    cases counts
    obtain ⟨-, ⟨⟩⟩ | ⟨credentials?, first, second, nothing, reads, -⟩ := takes_bind.mp goes
    obtain ⟨rfl, rfl⟩ := List.append_eq_nil_iff.mp nothing.symm
    cases reads

namespace Task

variable {K : Kind} {t : Task K} {settings : PassSettings} {actor : Actor} {now : Instant}

theorem proceed_of_preempting {move : Move}
    (preempting : t.object.preempting? settings now = some move) :
  t.proceed settings actor now = t.move settings move now
  := by
  rw [proceed, preempting]

theorem proceed_of_unpreempted (unpreempted : t.object.preempting? settings now = none) :
  t.proceed settings actor now =
    (Work.ofPhase t.object.phase t.object actor settings now).bind fun (decision, o) =>
      carryOut ⟨o, t.history⟩ settings now decision
  := by
  rw [proceed, unpreempted]
  rfl

/-- What follows the authentication is a move, or work that is not finished, or work
whose decision is carried out. -/
theorem takes_proceed {course : Course} {result? : Option (Outcome K)}
    (h : (t.proceed settings actor now).Takes course result?) :
  (∃ move, t.object.preempting? settings now = some move ∧
    (t.move settings move now).Takes course result?) ∨
  t.object.preempting? settings now = none ∧
    ((Work.ofPhase t.object.phase t.object actor settings now).Takes course none ∧
        result? = none ∨
      ∃ decision o work carried, course = work ++ carried ∧
        (Work.ofPhase t.object.phase t.object actor settings now).Takes work
          (some (decision, o)) ∧
        (Task.carryOut ⟨o, t.history⟩ settings now decision).Takes carried result?)
  := by
  cases preempting : t.object.preempting? settings now with
  | some move =>
    rw [proceed_of_preempting preempting] at h
    exact .inl ⟨move, rfl, h⟩
  | none =>
    rw [proceed_of_unpreempted preempting] at h
    refine .inr ⟨rfl, ?_⟩
    obtain stalls | ⟨⟨decision, o⟩, work, carried, rfl, works, carries⟩ := takes_bind.mp h
    · exact .inl stalls
    · exact .inr ⟨decision, o, work, carried, rfl, works, carries⟩

end Task

/-! ## Parts of a pass -/

namespace Memory

variable {K : Kind}

/-- What a pass does once the authentication of its tenant came to a result. -/
def serve (memory : Memory) (settings : PassSettings) (now : Instant) (ns : String)
    (o : Object K) : Except AccessFailure String × TokenCache →
      Pass (Except PassFailure Directive × Memory)
  | (.error cause, tokens) => .done (.error (.authentication cause), { memory with tokens })
  | (.ok bearer, tokens) =>
    (Task.proceed ⟨o, memory.writes⟩ settings ⟨bearer, ns⟩ now).bind fun (result, t) =>
      .done (result, ⟨tokens, t.history⟩)

/-- What a pass does with the object that it found. -/
def visit (memory : Memory) (settings : PassSettings) (now : Instant) (ns : String)
    (o : Object K) : Pass (Except PassFailure Directive × Memory) :=
  if trimBlanks o.tenant = "" then .done (.error .noTenant, memory)
  else (memory.tokens.authenticate (trimBlanks o.tenant) settings.realm now).bind
    (memory.serve settings now ns o)

/-- A pass works for the tenant that its object tells. -/
theorem visit_of_told {memory : Memory} {settings : PassSettings} {now : Instant} {ns : String}
    {o : Object K} (told : trimBlanks o.tenant ≠ "") :
  memory.visit settings now ns o =
    (memory.tokens.authenticate (trimBlanks o.tenant) settings.realm now).bind
      (memory.serve settings now ns o)
  := if_neg told

/-- What a pass does once it loaded what is stored of its object. -/
def receive (memory : Memory) (settings : PassSettings) (now : Instant) (ns name : String) :
    Except StoreFailure (Option (Object K)) → Pass (Except PassFailure Directive × Memory)
  | .error cause => .done (.error (.load cause), memory)
  | .ok none => .done (.ok .done, { memory with writes := memory.writes.forget (K.key ns name) })
  | .ok (some o) => memory.visit settings now ns o

/-- A pass loads its object, and then goes on with what is stored of it. -/
theorem pass_eq (memory : Memory) (settings : PassSettings) (now : Instant) (K : Kind)
    (ns name : String) :
  memory.pass settings now K ns name = .ask (.load K ns name) (memory.receive settings now ns name)
  := by
  change Program.ask (Operation.load K ns name) _ = _
  apply congrArg
  funext answer
  rcases answer with cause | _ | o
  · rfl
  · rfl
  rw [receive, visit, pure_bind]
  dsimp only
  by_cases blank : trimBlanks o.tenant = ""
  · rw [if_pos blank, if_pos blank]
    rfl
  rw [if_neg blank, if_neg blank]
  apply congrArg
  funext ends
  obtain ⟨_ | _, tokens⟩ := ends
  · rfl
  · rfl

end Memory

/-! ## Turns -/

/-- A pass over an object: what is remembered before it, its settings and its time, the
object as it is stored before it, the course that it takes, and its result, if it comes
to one. -/
structure Turn (K : Kind) where
  memory : Memory
  settings : PassSettings
  now : Instant
  stored : Object K
  course : Course
  result? : Option (Except PassFailure Directive × Memory)

namespace Turn

variable {K : Kind} {ns name : String} {t : Turn K}

/-- The object as it is stored after a turn. -/
def after (t : Turn K) : Object K :=
  t.stored.after t.course

theorem generation_after (t : Turn K) :
  t.after.generation = t.stored.generation
  := Object.generation_after t.stored t.course

/-- Whether a turn stores a status. -/
def StoresStatus (t : Turn K) : Prop :=
  ∃ exchange ∈ t.course, exchange.storesStatus

instance (t : Turn K) : Decidable t.StoresStatus :=
  inferInstanceAs (Decidable (∃ exchange ∈ t.course, _))

/-- The turn is a pass over the object of a name: it takes the course, and whenever it
loads an object of that name it is given the stored one. -/
structure Goes (t : Turn K) (ns name : String) : Prop where
  takes : (t.memory.pass t.settings t.now K ns name).Takes t.course t.result?
  loads : ∀ o, ⟨.load K ns name, .ok (some o)⟩ ∈ t.course → o = t.stored

/-- The turn loads the object and authenticates its tenant; an actor is to take the rest
of the course. -/
def Reaches (t : Turn K) (ns name : String) (actor : Actor) (rest : Course) : Prop :=
  actor.ns = ns ∧ ∃ tokens opening,
    t.course = ⟨.load K ns name, .ok (some t.stored)⟩ :: (opening ++ rest) ∧
    (t.memory.tokens.authenticate (trimBlanks t.stored.tenant) t.settings.realm t.now).Takes
      opening (some (.ok actor.bearer, tokens))

/-- The turn makes a move in place of the work of the phase. -/
structure Preempts (t : Turn K) (ns name : String) (actor : Actor) (carried : Course)
    (move : Move) : Prop where
  reaches : t.Reaches ns name actor carried
  preempting : t.stored.preempting? t.settings t.now = some move
  carries : ∃ result?,
    (Task.move ⟨t.stored, t.memory.writes⟩ t.settings move t.now).Takes carried result?

/-- The turn does the work of the phase, which leads to a decision and an object, and
carries out the decision. -/
structure Works (t : Turn K) (ns name : String) (actor : Actor) (work carried : Course)
    (decision : Decision) (o : Object K) : Prop where
  reaches : t.Reaches ns name actor (work ++ carried)
  unpreempted : t.stored.preempting? t.settings t.now = none
  works : (Work.ofPhase t.stored.phase t.stored actor t.settings t.now).Takes work
    (some (decision, o))
  carries : ∃ result?,
    (Task.carryOut ⟨o, t.memory.writes⟩ t.settings t.now decision).Takes carried result?

/-- The turn is given up, or leaves the calendar, in the work of the phase. -/
structure Stalls (t : Turn K) (ns name : String) (actor : Actor) (work : Course) : Prop where
  reaches : t.Reaches ns name actor work
  unpreempted : t.stored.preempting? t.settings t.now = none
  stalls : (Work.ofPhase t.stored.phase t.stored actor t.settings t.now).Takes work none

/-- A turn that only loads the object asks nothing that matters. -/
theorem isQuiet_of_load {answer : Except StoreFailure (Option (Object K))}
    (course : t.course = [⟨.load K ns name, answer⟩]) :
  ∀ exchange ∈ t.course, exchange.question.isQuiet
  := by
  rw [course, List.forall_mem_singleton]
  apply Operation.isQuiet_load

/-- Neither does a turn that gets as far as the authentication. -/
theorem isQuiet_of_authenticates {answer : Except StoreFailure (Option (Object K))}
    {tokens : TokenCache} {tenant realm : String} {now : Instant} {opening : Course}
    {result? : Option (Except AccessFailure String × TokenCache)}
    (course : t.course = ⟨.load K ns name, answer⟩ :: opening)
    (authenticates : (tokens.authenticate tenant realm now).Takes opening result?) :
  ∀ exchange ∈ t.course, exchange.question.isQuiet
  := by
  rw [course, List.forall_mem_cons]
  exact ⟨Operation.isQuiet_load .., authenticates.asked (TokenCache.asks_authenticate ..)⟩

theorem isQuiet_of_reaches {actor : Actor} {rest : Course} (h : t.Reaches ns name actor rest) :
  ∃ opening, t.course = opening ++ rest ∧ ∀ exchange ∈ opening, exchange.question.isQuiet
  := by
  obtain ⟨-, tokens, opening, course, authenticates⟩ := h
  have quiet := authenticates.asked (TokenCache.asks_authenticate ..)
  refine ⟨_ :: opening, course, ?_⟩
  exact List.forall_mem_cons.mpr ⟨Operation.isQuiet_load .., quiet⟩

/-- The turn finds that there is no object of the name. -/
def FindsMissing (t : Turn K) (ns name : String) : Prop :=
  ∃ rest, t.course = ⟨.load K ns name, .ok none⟩ :: rest

/-- The turn is given up while it waits for an answer. -/
def GivenUp (t : Turn K) (ns name : String) : Prop :=
  (t.memory.pass t.settings t.now K ns name).Awaits t.course

/-- How a turn begins, by one rule for each way: it is given up or leaves the calendar before
its tenant is authenticated, it ends before that, or it reaches the object. -/
inductive Begins (t : Turn K) (ns name : String) : Prop
  | givenUp (quiet : ∀ exchange ∈ t.course, exchange.question.isQuiet) (ends : t.result? = none)
  | unloaded {cause : StoreFailure} (course : t.course = [⟨.load K ns name, .error cause⟩])
      (ends : t.result? = some (.error (.load cause), t.memory))
  | missing (course : t.course = [⟨.load K ns name, .ok none⟩])
      (ends : t.result? =
        some (.ok .done, { t.memory with writes := t.memory.writes.forget (K.key ns name) }))
  | tenantless (course : t.course = [⟨.load K ns name, .ok (some t.stored)⟩])
      (blank : trimBlanks t.stored.tenant = "")
      (ends : t.result? = some (.error .noTenant, t.memory))
  | unauthenticated {cause : AccessFailure} {tokens : TokenCache} {opening : Course}
      (course : t.course = ⟨.load K ns name, .ok (some t.stored)⟩ :: opening)
      (authenticates : (t.memory.tokens.authenticate (trimBlanks t.stored.tenant) t.settings.realm
        t.now).Takes opening (some (.error cause, tokens)))
      (ends : t.result? = some (.error (.authentication cause), { t.memory with tokens }))
  | reaches {actor : Actor} {rest : Course} (reaches : t.Reaches ns name actor rest)

theorem Goes.begins (h : t.Goes ns name) :
  t.Begins ns name
  := by
  obtain ⟨takes, loads⟩ := h
  rw [Memory.pass_eq] at takes
  obtain ⟨course, ends⟩ | ⟨answer, rest, course, goes⟩ := takes_ask.mp takes
  · exact .givenUp (by simp [course]) ends
  rcases answer with cause | _ | o
  · obtain ⟨rfl, ends⟩ := takes_done.mp goes
    exact .unloaded course ends
  · obtain ⟨rfl, ends⟩ := takes_done.mp goes
    exact .missing course ends
  obtain rfl : o = t.stored := loads o (course ▸ List.mem_cons_self)
  rw [Memory.receive, Memory.visit] at goes
  split at goes
  · obtain ⟨rfl, ends⟩ := takes_done.mp goes
    exact .tenantless course ‹_› ends
  obtain ⟨authenticates, ends⟩ |
      ⟨⟨bearer?, tokens⟩, opening, second, rfl, authenticates, proceeds⟩ := takes_bind.mp goes
  · exact .givenUp (isQuiet_of_authenticates course authenticates) ends
  cases bearer? with
  | error cause =>
    obtain ⟨rfl, ends⟩ := takes_done.mp proceeds
    rw [List.append_nil] at course
    exact .unauthenticated course authenticates ends
  | ok bearer =>
    have reaches : t.Reaches ns name ⟨bearer, ns⟩ second :=
      ⟨rfl, tokens, opening, course, authenticates⟩
    exact .reaches reaches

/-- A pass reaches the object, or it asks nothing that matters, and remembers the writes that
it remembered unless the object is missing. -/
theorem Goes.quiet_or_reaches (h : t.Goes ns name) :
  (∀ exchange ∈ t.course, exchange.question.isQuiet) ∧
      (∀ result memory, t.result? = some (result, memory) →
        memory.writes = t.memory.writes ∨ t.FindsMissing ns name) ∨
    ∃ actor rest, t.Reaches ns name actor rest
  := by
  have remembers {result' : Except PassFailure Directive} {memory' : Memory}
      (ends : t.result? = some (result', memory')) (same : memory'.writes = t.memory.writes) :
      ∀ result memory, t.result? = some (result, memory) →
        memory.writes = t.memory.writes ∨ t.FindsMissing ns name := by
    rw [ends]
    rintro _ _ ⟨⟩
    exact .inl same
  cases h.begins with
  | givenUp quiet ends => exact .inl ⟨quiet, by simp [ends]⟩
  | unloaded course ends => exact .inl ⟨isQuiet_of_load course, remembers ends rfl⟩
  | missing course ends => exact .inl ⟨isQuiet_of_load course, fun _ _ _ => .inr ⟨[], course⟩⟩
  | tenantless course blank ends => exact .inl ⟨isQuiet_of_load course, remembers ends rfl⟩
  | unauthenticated course authenticates ends =>
    exact .inl ⟨isQuiet_of_authenticates course authenticates, remembers ends rfl⟩
  | reaches reaches => exact .inr ⟨_, _, reaches⟩

/-- A program makes the end of the course of a turn, and its result is that of the turn. -/
def Carries (t : Turn K) (ns name : String) (program : Pass (Task.Outcome K)) (carried : Course) :
    Prop :=
  ∃ tokens result?, program.Takes carried result? ∧
    t.result? = result?.map (fun (result, t') => (result, ⟨tokens, t'.history⟩)) ∧
    (program.Awaits carried → t.GivenUp ns name)

/-- A pass that reaches the object works for its tenant. -/
theorem Goes.tenant_ne (h : t.Goes ns name) {actor : Actor} {rest : Course}
    (reaches : t.Reaches ns name actor rest) :
  trimBlanks t.stored.tenant ≠ ""
  := by
  intro blank
  obtain ⟨-, tokens, opening, course, authenticates⟩ := reaches
  have takes := h.takes
  rw [course, Memory.pass_eq] at takes
  obtain ⟨⟨⟩, -⟩ | ⟨answer, rest', ⟨⟩, goes⟩ := takes_ask.mp takes
  rw [Memory.receive, Memory.visit, if_pos blank] at goes
  -- an authentication asks something, so the pass does not end before it
  obtain ⟨nothing, -⟩ := takes_done.mp goes
  obtain ⟨rfl, -⟩ := List.append_eq_nil_iff.mp nothing
  exact TokenCache.course_ne_nil_of_authenticate authenticates rfl

/-- A pass that reaches the object goes on with what follows the authentication. -/
theorem Goes.proceeds (h : t.Goes ns name) {actor : Actor} {rest : Course}
    (reaches : t.Reaches ns name actor rest) :
  t.Carries ns name (Task.proceed ⟨t.stored, t.memory.writes⟩ t.settings actor t.now) rest
  := by
  have tenant := h.tenant_ne reaches
  obtain ⟨rfl, tokens, opening, course, authenticates⟩ := reaches
  have takes := h.takes
  rw [course, Memory.pass_eq] at takes
  obtain ⟨⟨⟩, -⟩ | ⟨answer, rest', ⟨⟩, goes⟩ := takes_ask.mp takes
  rw [Memory.receive, Memory.visit_of_told tenant] at goes
  have waits (proceeds : (Task.proceed ⟨t.stored, t.memory.writes⟩ t.settings actor
      t.now).Awaits rest) : t.GivenUp actor.ns name := by
    rw [GivenUp, course, Memory.pass_eq]
    apply Awaits.answered
    rw [Memory.receive, Memory.visit_of_told tenant]
    apply authenticates.awaits_bind
    apply proceeds.bind
  refine ⟨tokens, ?_⟩
  obtain ⟨stops, ends⟩ | ⟨outcome, first, last, rfl, ends, returns⟩ :=
    takes_bind.mp (goes.rest authenticates)
  · exact ⟨none, stops, ends, waits⟩
  · obtain ⟨rfl, returned⟩ := takes_done.mp returns
    rw [List.append_nil] at waits ⊢
    exact ⟨some outcome, ends, returned, waits⟩

theorem Preempts.carried {actor : Actor} {carried : Course} {move : Move}
    (preempts : t.Preempts ns name actor carried move) (goes : t.Goes ns name) :
  t.Carries ns name (Task.move ⟨t.stored, t.memory.writes⟩ t.settings move t.now) carried
  := by
  have proceeds := goes.proceeds preempts.reaches
  rw [Task.proceed_of_preempting preempts.preempting] at proceeds
  apply proceeds

theorem Works.carried {actor : Actor} {work carried : Course} {decision : Decision} {o : Object K}
    (works : t.Works ns name actor work carried decision o) (goes : t.Goes ns name) :
  t.Carries ns name (Task.carryOut ⟨o, t.memory.writes⟩ t.settings t.now decision) carried
  := by
  obtain ⟨tokens, result?, proceeds, ends, waits⟩ := goes.proceeds works.reaches
  rw [Task.proceed_of_unpreempted works.unpreempted] at proceeds waits
  refine ⟨tokens, result?, proceeds.rest works.works, ends, fun carries => waits ?_⟩
  apply works.works.awaits_bind carries

/-- A pass asks nothing that matters, or it reaches the object. -/
theorem Goes.cases (h : t.Goes ns name) :
  (∀ exchange ∈ t.course, exchange.question.isQuiet) ∨
    ∃ actor,
      (∃ carried move, t.Preempts ns name actor carried move) ∨
      (∃ work, t.Stalls ns name actor work) ∨
      ∃ work carried decision o, t.Works ns name actor work carried decision o
  := by
  obtain ⟨quiet, -⟩ | ⟨actor, rest, reaches⟩ := h.quiet_or_reaches
  · exact .inl quiet
  obtain ⟨-, result?, proceeds, -⟩ := h.proceeds reaches
  refine .inr ⟨actor, ?_⟩
  obtain ⟨move, preempting, carries⟩ |
      ⟨unpreempted, ⟨stalls, -⟩ | ⟨decision, o, work, carried, rfl, works, carries⟩⟩ :=
    Task.takes_proceed proceeds
  · exact .inl ⟨rest, move, reaches, preempting, result?, carries⟩
  · exact .inr (.inl ⟨rest, reaches, unpreempted, stalls⟩)
  · exact .inr (.inr ⟨work, carried, decision, o, reaches, unpreempted, works, result?, carries⟩)

/-- The actor that a turn reaches the object for, and the rest of the course, are
determined by the course. -/
theorem Reaches.unique {actor actor' : Actor} {rest rest' : Course}
    (h : t.Reaches ns name actor rest) (h' : t.Reaches ns name actor' rest') :
  actor = actor' ∧ rest = rest'
  := by
  obtain ⟨actor_ns, tokens, opening, course, authenticates⟩ := h
  obtain ⟨actor_ns', tokens', opening', course', authenticates'⟩ := h'
  obtain ⟨-, same⟩ := List.cons.inj (course.symm.trans course')
  obtain ⟨rfl, bearers, rfl⟩ := authenticates.unique authenticates' same
  obtain ⟨bearer, _⟩ := actor
  obtain ⟨bearer', _⟩ := actor'
  obtain ⟨⟩ := actor_ns
  obtain ⟨⟩ := actor_ns'
  cases bearers
  exact ⟨rfl, rfl⟩

/-- What a turn works is determined by its course. -/
theorem Works.unique {actor actor' : Actor} {work work' carried carried' : Course}
    {decision decision' : Decision} {o o' : Object K}
    (h : t.Works ns name actor work carried decision o)
    (h' : t.Works ns name actor' work' carried' decision' o') :
  actor = actor' ∧ work = work' ∧ decision = decision' ∧ o = o'
  := by
  obtain ⟨rfl, same⟩ := h.reaches.unique h'.reaches
  obtain ⟨rfl, results, -⟩ := h.works.unique h'.works same
  cases results
  exact ⟨rfl, rfl, rfl, rfl⟩

/-! ## Turns in given surroundings -/

/-- The turn of a pass that is run in surroundings with a state. -/
def taken {σ : Type} (memory : Memory) (settings : PassSettings) (now : Instant)
    (stored : Object K) (ns name : String)
    (answer : (operation : Operation) → StateM σ operation.Answer) (s : σ) : Turn K where
  memory := memory
  settings := settings
  now := now
  stored := stored
  course := (memory.pass settings now K ns name).courseIn answer s
  result? := ((memory.pass settings now K ns name).run answer s).1

/-- A pass goes its turn wherever it is given the stored object whenever it loads it. -/
theorem goes_taken {σ : Type} {memory : Memory} {settings : PassSettings} {now : Instant}
    {stored : Object K} {answer : (operation : Operation) → StateM σ operation.Answer} {s : σ}
    (loads : ∀ s, (answer (.load K ns name) s).1 = .ok (some stored)) :
  (taken memory settings now stored ns name answer s).Goes ns name
  where
  takes := takes_courseIn answer _ s
  loads o found := by
    obtain ⟨s', given⟩ := exists_state_of_mem_courseIn answer found
    rw [loads] at given
    apply Option.some.inj (Except.ok.inj given)

/-- Surroundings in which a project is stored and its tenant can log in.  The remote API
answers every request alike, and a write of the status is refused for a cause, if one is
given. -/
def projectSurroundings (stored : Object .project) (response : Response)
    (refusal? : Option StoreFailure) : (operation : Operation) → StateM Unit operation.Answer
  | .load .project _ _ => return .ok (some stored)
  | .load _ _ _ => return .ok none
  | .writeStatus _ o => match refusal? with
    | some cause => return .error cause
    | none => return .ok o
  | .writeFinalizers _ o => return .ok o
  | .readSecret _ => return .ok [(Credentials.idKey, "client"), (Credentials.secretKey, "secret")]
  | .logIn _ _ => return .ok ⟨"token", 300⟩
  | .send _ => return .ok response
  | .count _ => return ()

/-- An answer of the remote API about the resource `res-9` in a state. -/
def reportOn (state : String) : Response :=
  ⟨200, "\x7b\"metadata\": \x7b\"id\": \"res-9\"\x7d, \"status\": \x7b\"state\": \"" ++ state
    ++ "\"\x7d\x7d"⟩

/-- A turn of the project `payments` in the namespace `shop`, by the second of its time. -/
def ofProject (second : Int) (stored : Object .project) (response : Response)
    (refusal? : Option StoreFailure) : Turn .project :=
  taken .empty ⟨10_000_000_000, 3600_000_000_000, "cloud"⟩ ⟨second, 0⟩ stored "shop" "payments"
    (projectSurroundings stored response refusal?) ()

theorem answer_ofProject {second : Int} {stored : Object .project} {response : Response}
    {refusal? : Option StoreFailure} {request : Request} {answer : Except String Response}
    (found : ⟨.send request, answer⟩ ∈ (ofProject second stored response refusal?).course) :
  answer = .ok response
  := by
  obtain ⟨s, given⟩ := exists_state_of_mem_courseIn _ found
  apply given

theorem goes_ofProject (second : Int) (stored : Object .project) (response : Response)
    (refusal? : Option StoreFailure) :
  (ofProject second stored response refusal?).Goes "shop" "payments"
  := goes_taken fun _ => rfl

end Turn

/-- The project `payments` in the namespace `shop` before its first pass. -/
def Object.payments : Object .project where
  metadata :=
    { annotations := none, creationTimestamp := none, deletionGracePeriodSeconds := none
      deletionTimestamp := none, finalizers := none, generateName := none, generation := some 1
      labels := none, managedFields := none, name := some "payments", ns := some "shop"
      ownerReferences := none, resourceVersion := some "1", selfLink := none, uid := none }
  spec := { tenant := "ARU-1", tags := [], description := "Payments", default := false }
  status := none

end CloudOperator
