import CloudOperator.Proofs.Guards
import CloudOperator.Proofs.Service
import CloudOperator.Retry.Policy

/-!
# Passes amid the writes of others

While a pass is under way other clients write its object, at any moments.

* `Interleaving` lists what happens to the object, and `Interleaving.reached` tells where that
  leaves the pass: it has in hand what it loaded or what it last wrote, and if the version of that
  is still the stored one then nobody else wrote the object since (`InHand`).
* `Interleaving.overwrites_nothing_newer` says that no write of the pass overwrites what it does
  not know.
-/

namespace CloudOperator

open Program

/-- A moment of an object: an exchange of the pass over it, or without one a write of another
client, and the object before and after it. -/
structure Moment where
  exchange? : Option (Exchange Operation.Answer)
  before : Json
  after : Json

namespace Moment

/-- The pass stores something of the object. -/
def Stores (m : Moment) : Prop :=
  ∃ exchange, m.exchange? = some exchange ∧
    (exchange.storesStatus ∨ exchange.storesFinalizers)

/-- The pass learns the version of its object: it loads the object, or stores something of it. -/
def Tells (K : Kind) (ns name : String) (m : Moment) : Prop :=
  (∃ o, m.exchange? = some ⟨.load K ns name, .ok (some o)⟩) ∨ m.Stores

end Moment

/-- The course of the pass among moments, of which the last one comes first. -/
def courseAmid (moments : List Moment) : Course :=
  (moments.filterMap (·.exchange?)).reverse

/-- An object got a version that it did not have before. -/
def HasFreshVersion (initial : Json) (moments : List Moment) (json : Json) : Prop :=
  ∀ state ∈ initial :: moments.map (·.after), Cluster.version? state ≠ Cluster.version? json

/-- What happens to the object of a name during a pass over it: other clients write it, and a
cluster carries out what the pass asks.  Every write gives the object a version that it did not
have before. -/
inductive Interleaving (K : Kind) (ns name : String) (initial : Json) :
    List Moment → Json → Prop
  | begun : Interleaving K ns name initial [] initial
  | edited {moments : List Moment} {stored stored' : Json}
      (run : Interleaving K ns name initial moments stored)
      (kept : Cluster.IsKept ns name stored') (fresh : HasFreshVersion initial moments stored') :
      Interleaving K ns name initial (⟨none, stored, stored'⟩ :: moments) stored'
  | asked {moments : List Moment} {stored stored' : Json} {exchange : Exchange Operation.Answer}
      (run : Interleaving K ns name initial moments stored)
      (served : exchange.question.IsServed (K.place ns name) stored exchange.answer stored')
      (fresh : stored' = stored ∨ HasFreshVersion initial moments stored') :
      Interleaving K ns name initial (⟨some exchange, stored, stored'⟩ :: moments) stored'

/-- A write that is accepted stores something. -/
theorem Exchange.stores_of_isWrite {exchange : Exchange Operation.Answer}
    (writes : exchange.question.isWrite) (accepted : exchange.refusal? = none) :
  exchange.storesStatus ∨ exchange.storesFinalizers
  := by
  obtain ⟨question, answer⟩ := exchange
  cases question with
  | load | readSecret | logIn | send | count => cases writes
  | writeStatus K o =>
    cases answer with
    | error cause => cases accepted
    | ok stored => exact .inl rfl
  | writeFinalizers K o =>
    cases answer with
    | error cause => cases accepted
    | ok stored => exact .inr rfl

variable {K : Kind} {ns name : String} {initial stored stored' : Json} {moments : List Moment}

/-- What a pass has in hand: the object as it was after a moment at which it learnt the version.
If this version is still the stored one, then only the pass asked something since, and it stored
nothing. -/
structure InHand (K : Kind) (ns name : String) (hand : Metadata) (source : Moment)
    (between : List Moment) (program : Pass (Except PassFailure Directive × Memory))
    (stored : Json) : Prop where
  guards : program.Guards K (fun _ _ => True) PassFailure.Persists hand
  describes : hand.Describes ns name source.after
  kept : Cluster.IsKept ns name source.after
  tells : source.Tells K ns name
  silent : ∀ u ∈ between, ¬ u.Stores
  alone : Cluster.version? stored = Cluster.version? source.after →
    stored = source.after ∧ ∀ u ∈ between, u.exchange?.isSome

/-- Where a pass is after moments: before the load of its object, at its end, or with the object
in hand. -/
inductive Reached (K : Kind) (ns name : String)
    (pass : Pass (Except PassFailure Directive × Memory)) :
    List Moment → Pass (Except PassFailure Directive × Memory) → Json → Prop
  | unloaded (moments : List Moment) (stored : Json) : Reached K ns name pass moments pass stored
  | ended (moments : List Moment) (result : Except PassFailure Directive × Memory)
      (stored : Json) : Reached K ns name pass moments (.done result) stored
  | inHand {hand : Metadata} {source : Moment} {between before : List Moment}
      {program : Pass (Except PassFailure Directive × Memory)} {stored : Json}
      (inHand : InHand K ns name hand source between program stored) :
      Reached K ns name pass (between ++ source :: before) program stored

namespace InHand

variable {hand : Metadata} {source : Moment} {between : List Moment}
  {program : Pass (Except PassFailure Directive × Memory)}

/-- What another client writes leaves the pass with what it has in hand, which is old then. -/
theorem edited (h : InHand K ns name hand source between program stored)
    (stale : Cluster.version? source.after ≠ Cluster.version? stored') :
  InHand K ns name hand source (⟨none, stored, stored'⟩ :: between) program stored'
  where
  guards := h.guards
  describes := h.describes
  kept := h.kept
  tells := h.tells
  silent := by
    refine List.forall_mem_cons.mpr ⟨?_, h.silent⟩
    rintro ⟨_, ⟨⟩, -⟩
  alone same := absurd same.symm stale

variable {operation : Operation} {next : operation.Answer → Pass _} {answer : operation.Answer}

/-- What the pass reads leaves what it has in hand. -/
theorem asked (h : InHand K ns name hand source between (ask operation next) stored)
    (reads : operation.isWrite = false)
    (served : operation.IsServed (K.place ns name) stored answer stored') :
  InHand K ns name hand source (⟨some ⟨operation, answer⟩, stored, stored'⟩ :: between)
    (next answer) stored'
  where
  guards := by
    have goes := h.guards.2 answer
    cases operation with
    | writeStatus | writeFinalizers => cases reads
    | load | readSecret | logIn | send | count => exact goes
  describes := h.describes
  kept := h.kept
  tells := h.tells
  silent := by
    refine List.forall_mem_cons.mpr ⟨?_, h.silent⟩
    rintro ⟨_, ⟨⟩, stores⟩
    have unstored : Exchange.storesStatus ⟨operation, answer⟩ = false ∧
        Exchange.storesFinalizers ⟨operation, answer⟩ = false :=
      Exchange.unstored_of_isWrite reads
    simp [unstored] at stores
  alone same := by
    rw [served.eq_of_isWrite reads] at same ⊢
    obtain ⟨unchanged, own⟩ := h.alone same
    exact ⟨unchanged, List.forall_mem_cons.mpr ⟨rfl, own⟩⟩

theorem kept_of_served (h : InHand K ns name hand source between program stored)
    (current : Cluster.version? stored = Cluster.version? source.after)
    (served : operation.IsServed (K.place ns name) stored answer stored') :
  Cluster.IsKept ns name stored'
  := by
  apply served.kept
  rw [(h.alone current).1]
  exact h.kept

/-- A write of the pass is applied to what it has in hand, or it is a conflict. -/
theorem cases_write (h : InHand K ns name hand source between (ask operation next) stored)
    (plain : ClusterPath.IsPlain K ns name) (writes : operation.isWrite)
    (served : operation.IsServed (K.place ns name) stored answer stored') :
  (Cluster.version? stored = Cluster.version? source.after ∧
      operation.Applies stored stored' ∧ operation.SparesOthers stored stored' ∧
      (Exchange.refusal? ⟨operation, answer⟩ = none →
        (Exchange.handAfter hand ⟨operation, answer⟩).Describes ns name stored')) ∨
    Cluster.version? stored ≠ Cluster.version? source.after ∧ stored' = stored ∧
      Exchange.refusal? ⟨operation, answer⟩ = some (.conflict ns name)
  := by
  cases operation with
  | load | readSecret | logIn | send | count => cases writes
  | writeStatus K' o =>
    obtain ⟨⟨rfl, same⟩, -⟩ := h.guards
    obtain ⟨current, answered, version, version', rfl⟩ | ⟨stale, rfl, rfl⟩ :=
      Cluster.Served.cases_of_describes plain (by decide) h.describes h.kept
        (congrArg _ same) (congrArg _ same) (congrArg _ same) (fun _ => rfl) served
    · have spares := Cluster.spares_patchStatus stored (o.statusPatch version) version'
      refine .inl ⟨current, ⟨version, version', rfl⟩, spares, fun accepted => ?_⟩
      cases answer with
      | error cause => cases accepted
      | ok o' =>
        have read := Object.ofAnswer_eq_ok.mp answered.symm
        apply Object.describes_adoptVersion (h.kept_of_served current served) read
        · rw [same, h.describes.name]
        · rw [same, h.describes.ns]
        · rw [spares.finalizers (by decide), (h.alone current).1, h.describes.finalizers, same]
    · exact .inr ⟨stale, rfl, rfl⟩
  | writeFinalizers K' o =>
    obtain ⟨⟨rfl, finalizers, same, others⟩, -⟩ := h.guards
    have named : o.metadata.name = hand.name := by rw [same]
    have placed : o.metadata.ns = hand.ns := by rw [same]
    have told : o.metadata.resourceVersion = hand.resourceVersion := by rw [same]
    obtain ⟨current, answered, version, version', rfl⟩ | ⟨stale, rfl, rfl⟩ :=
      Cluster.Served.cases_of_describes plain (by decide) h.describes h.kept named placed told
        (fun _ => rfl) served
    · have written := Cluster.finalizers_finalizersPatch stored o version version'
      refine .inl ⟨current, ⟨version, version', rfl⟩, ⟨Cluster.spares_patch .., ?_⟩,
        fun accepted => ?_⟩
      · intro finalizer found other
        rw [(h.alone current).1, h.describes.finalizers] at found
        obtain ⟨text, among, rfl⟩ := List.mem_map.mp found
        rw [written]
        apply List.mem_map_of_mem
        rw [same]
        apply others text among
        rintro rfl
        apply other rfl
      · cases answer with
        | error cause => cases accepted
        | ok o' =>
          have read := Object.ofAnswer_eq_ok.mp answered.symm
          apply Object.describes_adoptVersion (h.kept_of_served current served) read
          · rw [named, h.describes.name]
          · rw [placed, h.describes.ns]
          · exact written
    · exact .inr ⟨stale, rfl, rfl⟩

/-- A write that is accepted is made for the stored version, and leaves the pass with what it
wrote. -/
theorem wrote (h : InHand K ns name hand source between (ask operation next) stored)
    (plain : ClusterPath.IsPlain K ns name) (writes : operation.isWrite)
    (accepted : Exchange.refusal? ⟨operation, answer⟩ = none)
    (served : operation.IsServed (K.place ns name) stored answer stored') :
  ∃ hand', InHand K ns name hand' ⟨some ⟨operation, answer⟩, stored, stored'⟩ [] (next answer)
    stored'
  := by
  obtain ⟨current, -, -, describes⟩ | ⟨-, -, refused⟩ := h.cases_write plain writes served
  · have goes := h.guards.2 answer
    rw [accepted] at goes
    exact ⟨_, goes, describes accepted, h.kept_of_served current served,
      .inr ⟨_, rfl, Exchange.stores_of_isWrite writes accepted⟩, by simp, fun _ => ⟨rfl, by simp⟩⟩
  · rw [refused] at accepted
    cases accepted

/-- The pass fails where a write is a conflict.  The pass is tried again after a fixed delay, and
nothing is counted for its key. -/
theorem fails (h : InHand K ns name hand source between (ask operation next) stored)
    (refused : Exchange.refusal? ⟨operation, answer⟩ = some (.conflict ns name)) {rest : Course}
    {result? : Option (Except PassFailure Directive × Memory)}
    (takes : (next answer).Takes rest result?) :
  ∃ failure memory, result? = some (.error failure, memory) ∧ failure.isConflict ∧
    ∀ tracker key time, ∃ retry, Retry.ofFailure? tracker key time failure = some (retry, tracker) ∧
      retry.delay? = some Retry.conflictDelay
  := by
  have fails := h.guards.2 answer
  rw [refused] at fails
  obtain ⟨⟨outcome, memory⟩, ended, failed⟩ := fails
  obtain rfl : outcome = .error (.persistence (.conflict ns name)) := failed
  rw [ended] at takes
  obtain ⟨-, rfl⟩ := takes_done.mp takes
  exact ⟨_, memory, rfl, rfl, fun _ _ _ => ⟨.conflict, rfl, rfl⟩⟩

end InHand

namespace Reached

variable {pass : Pass (Except PassFailure Directive × Memory)}
  {program : Pass (Except PassFailure Directive × Memory)}

/-- What another client writes leaves the pass where it is. -/
theorem edited (h : Reached K ns name pass moments program stored)
    (fresh : HasFreshVersion initial moments stored') :
  Reached K ns name pass (⟨none, stored, stored'⟩ :: moments) program stored'
  := by
  cases h with
  | unloaded => apply Reached.unloaded
  | ended => apply Reached.ended
  | @inHand hand source between before _ _ inHand =>
    have stale : Cluster.version? source.after ≠ Cluster.version? stored' := by
      apply fresh
      simp
    rw [← List.cons_append]
    exact .inHand (inHand.edited stale)

/-- What the pass asks takes it to its end, or to what it has in hand then. -/
theorem asked {memory : Memory} {settings : PassSettings} {now : Instant} {operation : Operation}
    {next : operation.Answer → Pass _} {answer : operation.Answer}
    (h : Reached K ns name (memory.pass settings now K ns name) moments program stored)
    (asks : program = ask operation next) (plain : ClusterPath.IsPlain K ns name)
    (kept : Cluster.IsKept ns name stored)
    (served : operation.IsServed (K.place ns name) stored answer stored') :
  Reached K ns name (memory.pass settings now K ns name)
    (⟨some ⟨operation, answer⟩, stored, stored'⟩ :: moments) (next answer) stored'
  := by
  cases h with
  | ended => cases asks
  | unloaded =>
    obtain ⟨next', same, ends, guards⟩ := memory.guards_pass settings now K ns name
    rw [same] at asks
    cases asks
    by_cases loads : ∃ o, answer = .ok (some o)
    · obtain ⟨o, rfl⟩ := loads
      have unchanged : stored' = stored := Cluster.Served.eq_of_load served
      have describes := Object.describes_decode kept (Cluster.Served.decode_of_load plain served)
      rw [unchanged, ← List.nil_append (_ :: _)]
      apply Reached.inHand
      exact ⟨guards o, describes, kept, .inl ⟨o, rfl⟩, by simp, fun _ => ⟨rfl, by simp⟩⟩
    · obtain ⟨result, ended⟩ := ends answer fun o same => loads ⟨o, same⟩
      rw [ended]
      apply Reached.ended
  | @inHand hand source between before _ _ inHand =>
    subst asks
    by_cases writes : operation.isWrite
    · cases refused : Exchange.refusal? ⟨operation, answer⟩ with
      | some cause =>
        have goes := inHand.guards.2 answer
        rw [refused] at goes
        obtain ⟨result, ended, -⟩ := goes
        rw [ended]
        apply Reached.ended
      | none =>
        obtain ⟨hand', inHand⟩ := inHand.wrote plain writes refused served
        rw [← List.nil_append (_ :: _)]
        exact .inHand inHand
    · rw [← List.cons_append]
      exact .inHand (inHand.asked (eq_false_of_ne_true writes) served)

end Reached

namespace Interleaving

theorem kept (run : Interleaving K ns name initial moments stored)
    (initially : Cluster.IsKept ns name initial) :
  Cluster.IsKept ns name stored
  := by
  induction run with
  | begun => exact initially
  | edited run kept fresh ih => exact kept
  | asked run served fresh ih => exact served.kept ih

/-- Where a pass is after what happened: it is left with the rest of its course. -/
theorem reached {memory : Memory} {settings : PassSettings} {now : Instant}
    (plain : ClusterPath.IsPlain K ns name) (initially : Cluster.IsKept ns name initial)
    (run : Interleaving K ns name initial moments stored) {rest : Course}
    {result? : Option (Except PassFailure Directive × Memory)}
    (takes : (memory.pass settings now K ns name).Takes (courseAmid moments ++ rest) result?) :
  ∃ program, program.Takes rest result? ∧
    Reached K ns name (memory.pass settings now K ns name) moments program stored
  := by
  induction run generalizing rest with
  | begun => exact ⟨_, takes, .unloaded ..⟩
  | edited run kept fresh ih =>
    obtain ⟨program, goes, reached⟩ := ih takes
    exact ⟨program, goes, reached.edited fresh⟩
  | @asked moments stored stored' exchange run served fresh ih =>
    have course : courseAmid (⟨some exchange, stored, stored'⟩ :: moments) ++ rest =
        courseAmid moments ++ exchange :: rest := by
      simp [courseAmid]
    rw [course] at takes
    obtain ⟨program, goes, reached⟩ := ih takes
    obtain ⟨next, asks, goes⟩ := goes.of_cons
    exact ⟨_, goes, reached.asked asks plain (run.kept initially) served⟩

/-- A moment of a pass comes after what happened before it. -/
theorem of_append {later earlier : List Moment} {m : Moment} {exchange : Exchange Operation.Answer}
    (run : Interleaving K ns name initial (later ++ m :: earlier) stored)
    (own : m.exchange? = some exchange) :
  Interleaving K ns name initial earlier m.before ∧
    exchange.question.IsServed (K.place ns name) m.before exchange.answer m.after
  := by
  generalize all : later ++ m :: earlier = moments at run
  induction run generalizing later with
  | begun => cases List.append_ne_nil_of_right_ne_nil later (List.cons_ne_nil m earlier) all
  | edited run kept fresh ih =>
    cases later with
    | nil =>
      cases all
      cases own
    | cons u later =>
      cases all
      exact ih rfl
  | asked run served fresh ih =>
    cases later with
    | nil =>
      cases all
      cases own
      exact ⟨run, served⟩
    | cons u later =>
      cases all
      exact ih rfl

/-- No write of a pass overwrites what the pass does not know, whatever other clients write in
between.  Before the write the pass learnt the version of its object, when it loaded the object or
last stored something of it.

* If this version is the stored one then the object is as it was then, nobody else wrote it since,
  and the write is applied and leaves everything that it is not about.
* If it is not the stored one then the object stays as it is, and the pass fails for a conflict,
  which is tried again after a fixed delay and is not counted. -/
theorem overwrites_nothing_newer {memory : Memory} {settings : PassSettings} {now : Instant}
    {later earlier : List Moment} {m : Moment} {exchange : Exchange Operation.Answer}
    {result? : Option (Except PassFailure Directive × Memory)}
    (plain : ClusterPath.IsPlain K ns name) (initially : Cluster.IsKept ns name initial)
    (run : Interleaving K ns name initial (later ++ m :: earlier) stored)
    (takes : (memory.pass settings now K ns name).Takes (courseAmid (later ++ m :: earlier))
      result?)
    (own : m.exchange? = some exchange) (writes : exchange.question.isWrite) :
  ∃ between source before, earlier = between ++ source :: before ∧ source.Tells K ns name ∧
    (∀ u ∈ between, ¬ u.Stores) ∧
    (Cluster.version? m.before = Cluster.version? source.after →
      m.before = source.after ∧ (∀ u ∈ between, u.exchange?.isSome) ∧
        exchange.question.Applies m.before m.after ∧
          exchange.question.SparesOthers m.before m.after) ∧
    (Cluster.version? m.before ≠ Cluster.version? source.after →
      m.after = m.before ∧ ∃ failure memory', result? = some (.error failure, memory') ∧
        failure.isConflict ∧ ∀ tracker key time, ∃ retry,
          Retry.ofFailure? tracker key time failure = some (retry, tracker) ∧
            retry.delay? = some Retry.conflictDelay)
  := by
  obtain ⟨operation, answer⟩ := exchange
  obtain ⟨started, served⟩ := run.of_append own
  have course : courseAmid (later ++ m :: earlier) =
      courseAmid earlier ++ ⟨operation, answer⟩ :: courseAmid later := by
    simp [courseAmid, own]
  rw [course] at takes
  obtain ⟨program, goes, reached⟩ := started.reached plain initially takes
  obtain ⟨next, asks, rest⟩ := goes.of_cons
  cases reached with
  | ended => cases asks
  | unloaded =>
    obtain ⟨next', same, -⟩ := memory.guards_pass settings now K ns name
    rw [same] at asks
    cases asks
    cases writes
  | @inHand hand source between before _ _ inHand =>
    subst asks
    refine ⟨between, source, before, rfl, inHand.tells, inHand.silent, ?_⟩
    obtain ⟨current, applies, spares, -⟩ | ⟨stale, unchanged, refused⟩ :=
      inHand.cases_write plain writes served
    · refine ⟨fun _ => ?_, fun stale => absurd current stale⟩
      obtain ⟨same, alone⟩ := inHand.alone current
      exact ⟨same, alone, applies, spares⟩
    · refine ⟨fun current => absurd current stale, fun _ => ⟨unchanged, ?_⟩⟩
      exact inHand.fails refused rest

namespace Payments

/-- The token of the tenant is cached. -/
def memory : Memory :=
  ⟨[("ARU-1", ⟨⟨"token", 300⟩, ⟨0, 0⟩⟩)], []⟩

def settings : PassSettings :=
  ⟨10_000_000_000, 3600_000_000_000, "cloud"⟩

/-- The project as the pass loads it. -/
def loaded : Json :=
  Object.payments.encode

/-- The project with the finalizer that the pass writes. -/
def enrolled : Json :=
  Cluster.stamped
    (Cluster.patched .patch loaded (Object.payments.addFinalizer.finalizersPatch "1")) "2"

/-- The project with another description, which somebody else writes. -/
def described : Json :=
  Cluster.stamped
    (enrolled.mergePatch (.object [("spec", .object [("description", .text "All payments")])])) "3"

/-- The project that the pass has in hand after the write of the finalizer. -/
def inHand : Object .project :=
  { Object.payments.addFinalizer with
    metadata := { Object.payments.addFinalizer.metadata with resourceVersion := some "2" } }

/-- The status is written, for a version that is not stored any more. -/
def writing : Moment :=
  ⟨some ⟨.writeStatus .project (inHand.moved .initialized ⟨1, 0⟩),
    .error (.conflict "shop" "payments")⟩, described, described⟩

/-- The finalizer is written. -/
def keeping : Moment :=
  ⟨some ⟨.writeFinalizers .project Object.payments.addFinalizer, .ok inHand⟩, loaded, enrolled⟩

/-- The description is written. -/
def describing : Moment :=
  ⟨none, enrolled, described⟩

/-- The pass loads the project, and counts that a token is cached. -/
def opening : List Moment := [
  ⟨some ⟨.count .tokenCacheHits, ()⟩, loaded, loaded⟩,
  ⟨some ⟨.load .project "shop" "payments", .ok (some Object.payments)⟩, loaded, loaded⟩]

/-- How the pass ends. -/
def result : Except PassFailure Directive × Memory :=
  (.error (.persistence (.conflict "shop" "payments")), memory)

theorem plain :
  ClusterPath.IsPlain .project "shop" "payments"
  where
  named := by decide
  whole := by decide +kernel
  plain ofStatus := by
    have allowed : (ClusterPath.ofObject .project "shop" "payments" ofStatus).toList.all
        (fun c => Target.isPathChar c && ! Target.isPathEnd c) := by
      cases ofStatus with
      | false => decide +kernel
      | true => decide +kernel
    simpa only [List.all_eq_true, Bool.and_eq_true, Bool.not_eq_true'] using allowed
  short := by decide +kernel

theorem isKept_loaded :
  Cluster.IsKept "shop" "payments" loaded
  where
  version := by decide +kernel
  name := rfl
  ns := rfl
  distinct := by decide +kernel

theorem isKept_described :
  Cluster.IsKept "shop" "payments" described
  where
  version := by decide +kernel
  name := rfl
  ns := rfl
  distinct := by decide +kernel

theorem run :
  Interleaving .project "shop" "payments" loaded (writing :: describing :: keeping :: opening)
    described
  := by
  have loads : Object.decode .project loaded = some Object.payments := rfl
  have keeps : Except.ok inHand = Object.ofAnswer .project enrolled := rfl
  refine .asked (.edited (.asked (.asked (.asked .begun ?_ (.inl rfl)) rfl (.inl rfl)) ?_ (.inr ?_))
    isKept_described ?_) ?_ (.inl rfl)
  · exact Cluster.served_load plain loads
  · apply (Cluster.served_write_iff plain (by decide) rfl rfl rfl rfl).mpr
    exact .inl ⟨by decide +kernel, keeps, "2", rfl⟩
  · unfold HasFreshVersion
    decide +kernel
  · unfold HasFreshVersion
    decide +kernel
  · apply (Cluster.served_write_iff plain (by decide) rfl rfl rfl rfl).mpr
    exact .inr ⟨by decide +kernel, rfl, rfl⟩

theorem takes :
  (memory.pass settings ⟨1, 0⟩ .project "shop" "payments").Takes
    (courseAmid (writing :: describing :: keeping :: opening)) (some result)
  := .answered <| .answered <| .answered <| .answered <| .done _

end Payments

/-- The finalizer of a project is written to the project that was loaded.  Then somebody else
describes the project, and the status is not written. -/
theorem overwrites_nothing_newer_payments :
  Operation.Applies Payments.loaded Payments.enrolled
      (.writeFinalizers .project Object.payments.addFinalizer) ∧
    Payments.writing.after = Payments.described ∧
    ∃ failure memory, Payments.result = (.error failure, memory) ∧ failure.isConflict
  := by
  constructor
  · have own : Payments.keeping.exchange? =
        some ⟨.writeFinalizers .project Object.payments.addFinalizer, .ok Payments.inHand⟩ := rfl
    have run : Interleaving .project "shop" "payments" Payments.loaded
        ([Payments.writing, Payments.describing] ++ Payments.keeping :: Payments.opening)
        Payments.described := Payments.run
    obtain ⟨between, source, before, split, -, -, current, -⟩ :=
      overwrites_nothing_newer Payments.plain Payments.isKept_loaded run Payments.takes own rfl
    have among : source ∈ Payments.opening := by
      simp [split]
    have same : source.after = Payments.loaded := by
      simp only [Payments.opening, List.mem_cons, List.not_mem_nil, or_false] at among
      obtain rfl | rfl := among <;> rfl
    rw [same] at current
    exact (current rfl).2.2.1
  · have own : Payments.writing.exchange? =
        some ⟨.writeStatus .project (Payments.inHand.moved .initialized ⟨1, 0⟩),
          .error (.conflict "shop" "payments")⟩ := rfl
    have run : Interleaving .project "shop" "payments" Payments.loaded
        ([] ++ Payments.writing :: Payments.describing :: Payments.keeping :: Payments.opening)
        Payments.described := Payments.run
    obtain ⟨between, source, before, split, tells, -, -, stale⟩ :=
      overwrites_nothing_newer Payments.plain Payments.isKept_loaded run Payments.takes own rfl
    have among : source ∈ Payments.describing :: Payments.keeping :: Payments.opening := by
      simp [split]
    have older : Cluster.version? Payments.described ≠ Cluster.version? source.after := by
      simp only [Payments.opening, List.mem_cons, List.not_mem_nil, or_false] at among
      obtain rfl | rfl | rfl | rfl := among
      · rcases tells with ⟨o, ⟨⟩⟩ | ⟨exchange, ⟨⟩, -⟩
      · decide +kernel
      · decide +kernel
      · decide +kernel
    obtain ⟨unchanged, failure, memory, ends, conflict, -⟩ := stale older
    exact ⟨unchanged, failure, memory, Option.some.inj ends, conflict⟩

end Interleaving

end CloudOperator
