import CloudOperator.Proofs.Effects
import CloudOperator.Monitoring.Metrics

/-!
# Counting

What is counted on a course (`Course.counted`), and what the metrics show of it.

* `Metrics.value_countAll` says that a counter grows by the number of times that it is counted,
  since no two counters have a series in common (`Counter.series_injective`).
* `Course.tallies` are the counters that tell what becomes of a status.  Neither an
  authentication nor the work of a phase counts any (`TokenCache.untold_authenticate`,
  `Work.untold_ofPhase`).
-/

namespace CloudOperator

open Program

variable {K : Kind}

/-! ## Counters -/

/-- No two counters have a series in common. -/
theorem Counter.series_injective {c c' : Counter} (same : c.series = c'.series) :
  c = c'
  := by
  cases c <;> cases c' <;> simp_all [series]

theorem Kind.name_injective {K K' : Kind} (same : K.name = K'.name) :
  K = K'
  := by
  revert same
  cases K <;> cases K' <;> decide

theorem Phase.name_injective {p p' : Phase} (same : p.name = p'.name) :
  p = p'
  := by
  revert same
  cases p <;> cases p' <;> decide

namespace Metrics

/-- The value of a counter. -/
def value (m : Metrics) (c : Counter) : Nat :=
  (Table.find? m c.series).getD 0

/-- The metrics after counters were raised, one after the other. -/
def countAll (m : Metrics) (counters : List Counter) : Metrics :=
  counters.foldl count m

/-- The counter that is raised grows by one, and every other one stays. -/
theorem value_count (m : Metrics) (c c' : Counter) :
  (m.count c).value c' = m.value c' + if c = c' then 1 else 0
  := by
  rw [value, count, raise, Table.find?_insert, value]
  by_cases same : c = c'
  · rw [if_pos (congrArg _ same), if_pos same, same]
    rfl
  · rw [if_neg fun series => same (Counter.series_injective series), if_neg same]
    rfl

/-- A counter grows by the number of times that it is raised. -/
theorem value_countAll (m : Metrics) (counters : List Counter) (c : Counter) :
  (m.countAll counters).value c = m.value c + counters.count c
  := by
  induction counters generalizing m with
  | nil => rfl
  | cons first counters ih =>
    rw [countAll, List.foldl_cons, ← countAll, ih, value_count, List.count_cons]
    simp only [beq_iff_eq]
    omega

/-- Counters that are raised after others are raised from where these led to. -/
theorem countAll_append (m : Metrics) (first second : List Counter) :
  m.countAll (first ++ second) = (m.countAll first).countAll second
  := List.foldl_append

end Metrics

/-! ## What is counted on a course -/

/-- The counter that is raised. -/
def Operation.counter? : Operation → Option Counter
  | count counter => some counter
  | _ => none

/-- What is counted on a course, in order. -/
def Course.counted (course : Course) : List Counter :=
  (questions course).filterMap Operation.counter?

/-- What is counted on a course is what its first exchange counts, and then what the others count.
-/
theorem Course.counted_cons (exchange : Exchange Operation.Answer) (course : Course) :
  counted (exchange :: course) = exchange.question.counter?.toList ++ counted course
  := by
  rw [counted, questions, List.map_cons, List.filterMap_cons, counted, questions]
  cases exchange.question.counter? with
  | none => rfl
  | some counter => rfl

@[simp]
theorem Course.counted_append (first second : Course) :
  counted (first ++ second) = counted first ++ counted second
  := by
  simp [counted, questions]

/-! ## What becomes of a status -/

/-- Whether a counter tells what becomes of a status: that it is stored in another phase, or that
it is put off. -/
def Counter.isTally : Counter → Bool
  | phaseTransitions .. | debouncedWrites _ => true
  | _ => false

/-- Whether it is counted what becomes of a status. -/
def Operation.isTally : Operation → Bool
  | count counter => counter.isTally
  | _ => false

/-- What a course counts of what becomes of a status, in order. -/
def Course.tallies (course : Course) : List Counter :=
  (counted course).filter Counter.isTally

namespace Course

variable {course : Course}

@[simp]
theorem tallies_append (first second : Course) :
  tallies (first ++ second) = tallies first ++ tallies second
  := by
  simp [tallies]

/-- An exchange that tells nothing of a status adds nothing to what is told of it. -/
theorem tallies_cons_of_untold {exchange : Exchange Operation.Answer}
    (untold : exchange.question.isTally = false) :
  tallies (exchange :: course) = tallies course
  := by
  rw [tallies, counted_cons, List.filter_append, tallies]
  obtain ⟨question, answer⟩ := exchange
  cases question with
  | count counter =>
    rw [Operation.counter?, Option.toList_some, List.filter_singleton]
    exact congrArg (fun told => (bif told then [counter] else []) ++ _) untold
  | _ => rfl

/-- A course of such exchanges tells nothing of a status. -/
theorem tallies_of_untold (untold : ∀ exchange ∈ course, exchange.question.isTally = false) :
  tallies course = []
  := by
  induction course with
  | nil => rfl
  | cons exchange course ih =>
    obtain ⟨first, rest⟩ := List.forall_mem_cons.mp untold
    rw [tallies_cons_of_untold first, ih rest]

/-- A counter that tells what becomes of a status is among those that tell so if it is counted. -/
theorem mem_tallies {counter : Counter} (found : counter ∈ counted course)
    (tally : counter.isTally) :
  counter ∈ tallies course
  := List.mem_filter.mpr ⟨found, tally⟩

end Course

theorem Operation.untold_of_isLoad {operation : Operation} (loads : operation.isLoad) :
  operation.isTally = false
  := by
  cases operation with
  | load K ns name => rfl
  | _ => cases loads

/-- References are resolved and requests are counted without a word about a status. -/
theorem Operation.admits_untold {ns : String} {references : List (Kind × Reference)} :
  Admits (·.isTally = false) ns references
  where
  loads _ resolves := untold_of_isLoad resolves.isLoad
  counts _ _ := rfl

theorem Operation.untold_of_isAccess {operation : Operation} (accesses : operation.isAccess) :
  operation.isTally = false
  := by
  cases operation with
  | readSecret tenant | logIn credentials realm => rfl
  | _ => cases accesses

/-- An authentication counts nothing of what becomes of a status. -/
theorem TokenCache.untold_authenticate (cache : TokenCache) (tenant realm : String)
    (now : Instant) :
  (cache.authenticate tenant realm now).Asks (·.isTally = false)
  := asks_authenticate_of (fun _ => Operation.untold_of_isAccess) rfl (fun _ => rfl) ..

theorem Request.untold_report (r : Request) :
  Asks (·.isTally = false) r.report
  := asks_report_of rfl fun _ _ => rfl

theorem Request.untold_succeed (r : Request) :
  Asks (·.isTally = false) r.succeed
  := asks_succeed_of rfl fun _ _ => rfl

namespace Object

/-- A creation counts nothing of what becomes of the status. -/
theorem untold_create (o : Object K) (actor : Actor) :
  Asks (·.isTally = false) (o.create actor)
  := asks_create_of Operation.admits_untold fun _ _ => rfl

theorem untold_remoteState (o : Object K) (actor : Actor) :
  Asks (·.isTally = false) (o.remoteState actor)
  := by
  apply asks_attempt_bind (Request.untold_report _)
  intro report
  trivial

/-- An update of a server counts nothing of what becomes of its status. -/
theorem untold_updateServer (o : Object .cloudServer) (actor : Actor) (changed : Bool) :
  Asks (·.isTally = false) (o.updateServer actor changed)
  := by
  apply asks_bind
  · cases changed with
    | false => trivial
    | true => exact asks_attach_of Operation.admits_untold fun _ => rfl
  rintro (cause | o₁)
  · trivial
  apply asks_bind (asks_syncVolumes_of Operation.admits_untold fun _ => rfl)
  rintro (cause | o₂)
  · trivial
  · trivial

theorem untold_update (o : Object K) (actor : Actor) (changed : Bool) :
  Asks (·.isTally = false) (o.update actor changed)
  := by
  cases K with
  | cloudServer => exact o.untold_updateServer actor changed
  | _ =>
    apply asks_bind (Request.untold_succeed _)
    intro result
    trivial

end Object

/-- The work of a phase does not count what becomes of the status. -/
theorem Work.untold_ofPhase (phase : Option Phase) (o : Object K) (actor : Actor)
    (settings : PassSettings) (now : Instant) :
  (ofPhase phase o actor settings now).Asks (·.isTally = false)
  := by
  cases phase with
  | none => trivial
  | some phase =>
    cases phase with
    | creating =>
      apply asks_bind (o.untold_create actor)
      rintro (cause | ⟨report, o'⟩)
      · trivial
      · trivial
    | provisioning =>
      apply asks_bind (o.untold_remoteState actor)
      rintro (cause | state)
      · trivial
      · trivial
    | created => exact (asks_compare o actor).mono fun _ => Operation.untold_of_isLoad
    | updating =>
      apply asks_bind (o.untold_update actor _)
      intro result
      trivial
    | deleting =>
      change (delete o actor).Asks _
      rw [delete]
      split
      · trivial
      · apply asks_bind (Request.untold_succeed _)
        intro result
        trivial
    | failed =>
      apply asks_bind asks_ofOption
      intro result
      trivial

end CloudOperator
