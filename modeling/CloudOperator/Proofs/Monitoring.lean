import CloudOperator.Proofs.Accounting
import CloudOperator.Simulation.Action

/-!
# The metrics of a running operator

An operator in a simulated world shows what its passes count.  Its surroundings raise the counters
that they are asked to raise, so a pass that is run raises what it counts on its course
(`World.metrics_run`).  What follows a pass tells nothing of a status
(`Simulation.reconcile_cases`).

`World.Passes` are the passes of an operator, one after the other.  The metrics show the phases that
they entered and the writes that they skipped (`World.Passes.metrics_eq`).
-/

namespace CloudOperator

open Program

variable {K : Kind} {ns name : String} {α β : Type}

/-! ## Operations in a world -/

namespace World

/-- What leaves the metrics as they are, in whatever state the world is. -/
def SparesMetrics (action : StateM World α) : Prop :=
  ∀ w, (action w).2.metrics = w.metrics

theorem sparesMetrics_pure (a : α) :
  SparesMetrics (pure a)
  := fun _ => rfl

/-- Actions one after the other leave the metrics if each does. -/
theorem SparesMetrics.bind {action : StateM World α} {next : α → StateM World β}
    (first : SparesMetrics action) (second : ∀ a, SparesMetrics (next a)) :
  SparesMetrics (action >>= next)
  := fun w => (second _ _).trans (first w)

/-- The cluster answers a request without a count. -/
theorem sparesMetrics_answerCluster (r : ClusterRequest) :
  SparesMetrics (answerCluster r)
  := by
  intro w
  simp only [answerCluster, modifyGet, MonadStateOf.modifyGet, StateT.modifyGet]
  split
  · rfl
  · rfl
  · rfl

/-- An object is loaded without a count. -/
theorem sparesMetrics_load (K : Kind) (ns name : String) :
  SparesMetrics (ClusterRequest.load answerCluster K ns name)
  := by
  rw [ClusterRequest.load]
  cases ClusterRequest.about? .get K ns name none with
  | none => apply sparesMetrics_pure
  | some r =>
    apply SparesMetrics.bind (sparesMetrics_answerCluster r)
    rintro (status | json)
    · dsimp only
      split
      · apply sparesMetrics_pure
      · apply sparesMetrics_pure
    · apply sparesMetrics_pure

/-- An object is written without a count; it is the pass that counts. -/
theorem sparesMetrics_write (verb : ClusterVerb) (o : Object K) (patch : String → Json) :
  SparesMetrics (ClusterRequest.write answerCluster verb o patch)
  := by
  rw [ClusterRequest.write]
  cases o.metadata.resourceVersion with
  | none => apply sparesMetrics_pure
  | some version =>
    dsimp only
    cases ClusterRequest.about? verb K o.ns o.metadata.displayName (some (patch version)) with
    | none => apply sparesMetrics_pure
    | some r =>
      apply SparesMetrics.bind (sparesMetrics_answerCluster r)
      rintro (status | json)
      · dsimp only
        split
        · apply sparesMetrics_pure
        · apply sparesMetrics_pure
      · apply sparesMetrics_pure

/-- The surroundings raise the counter that they are asked to raise. -/
theorem metrics_answer (operation : Operation) (w : World) :
  (answer operation w).2.metrics = w.metrics.countAll operation.counter?.toList
  := by
  cases operation with
  | load K ns name => exact sparesMetrics_load K ns name w
  | writeStatus K o => exact sparesMetrics_write .patchStatus o o.statusPatch w
  | writeFinalizers K o => exact sparesMetrics_write .patch o o.finalizersPatch w
  | readSecret | logIn | send | count => rfl

/-- A program that is run raises what it counts on its course. -/
theorem metrics_run (program : Pass α) (w : World) :
  (program.run answer w).2.metrics = w.metrics.countAll (Course.counted (program.courseIn answer w))
  := by
  induction program generalizing w with
  | done result => rfl
  | overflow => rfl
  | ask operation next ih =>
    obtain ⟨given, w', answered⟩ : ∃ given w', answer operation w = (given, w') := ⟨_, _, rfl⟩
    have raised : w'.metrics = w.metrics.countAll operation.counter?.toList := by
      rw [← metrics_answer, answered]
    have course : (ask operation next).courseIn answer w =
        ⟨operation, given⟩ :: (next given).courseIn answer w' := by
      rw [courseIn, answered]
    have result : (ask operation next).run answer w = (next given).run answer w' := by
      change (next (answer operation w).1).run answer (answer operation w).2 = _
      rw [answered]
    rw [result, ih, raised, course, Course.counted_cons, Metrics.countAll_append]

end World

/-! ## What follows a pass -/

/-- The metrics of a world are those of another one, but for counters that tell nothing of what
becomes of a status. -/
def World.CountsOthers (w w' : World) : Prop :=
  ∃ counters : List Counter, (∀ counter ∈ counters, counter.isTally = false) ∧
    w'.metrics = w.metrics.countAll counters

namespace World.CountsOthers

variable {w w₁ w₂ : World}

theorem of_eq (same : w₁.metrics = w.metrics) :
  w.CountsOthers w₁
  := ⟨[], List.forall_mem_nil _, same⟩

/-- What is counted beside the statuses is so in two steps. -/
theorem trans (h : w.CountsOthers w₁) (h' : w₁.CountsOthers w₂) :
  w.CountsOthers w₂
  := by
  obtain ⟨first, untold, same⟩ := h
  obtain ⟨second, untold', same'⟩ := h'
  refine ⟨first ++ second, List.forall_mem_append.mpr ⟨untold, untold'⟩, ?_⟩
  rw [same', same, Metrics.countAll_append]

end World.CountsOthers

namespace Simulation

/-- An action counts nothing of what becomes of a status. -/
def IsUntold (action : Simulation α) : Prop :=
  ∀ w a w', action w = some (a, w') → w.CountsOthers w'

theorem IsUntold.counts {action : Simulation α} (h : IsUntold action) {w w' : World} {a : α}
    (goes : action w = some (a, w')) :
  w.CountsOthers w'
  := h w a w' goes

theorem isUntold_pure (a : α) :
  IsUntold (pure a)
  := by
  rintro w _ _ ⟨⟩
  exact .of_eq rfl

/-- A change of the world elsewhere than in its metrics tells nothing. -/
theorem isUntold_change {f : World → World} (spares : ∀ w, (f w).metrics = w.metrics) :
  IsUntold (change f)
  := by
  rintro w _ _ ⟨⟩
  exact .of_eq (spares w)

/-- To raise a counter that tells nothing of a status is to tell nothing. -/
theorem isUntold_count {counter : Counter} (untold : counter.isTally = false) :
  IsUntold (count counter)
  := by
  rintro w _ _ ⟨⟩
  exact ⟨[counter], List.forall_mem_singleton.mpr untold, rfl⟩

theorem isUntold_get :
  IsUntold get
  := by
  rintro w _ _ ⟨⟩
  exact .of_eq rfl

theorem isUntold_ofOption (a? : Option α) :
  IsUntold (liftM a?)
  := by
  intro w a w' h
  cases a? with
  | none => cases h
  | some a =>
    cases h
    exact .of_eq rfl

/-- Actions one after the other tell nothing if none of them does. -/
theorem IsUntold.bind {action : Simulation α} {next : α → Simulation β} (first : IsUntold action)
    (second : ∀ a, IsUntold (next a)) :
  IsUntold (action >>= next)
  := by
  intro w b w' h
  obtain ⟨⟨a, w₁⟩, acts, goes⟩ := Option.bind_eq_some_iff.mp h
  exact (first w a w₁ acts).trans (second a w₁ b w' goes)

/-- What follows a failure counts the failure, and nothing of the status. -/
theorem isUntold_retry (key : String) (f : PassFailure) :
  IsUntold (retry key f)
  := by
  apply isUntold_get.bind
  intro w
  apply (isUntold_ofOption _).bind
  rintro ⟨retry, backoff⟩
  refine IsUntold.bind (isUntold_change ?_) fun _ => ?_
  · exact fun _ => rfl
  apply (isUntold_count rfl).bind
  intro _
  apply isUntold_pure

theorem isUntold_tracked :
  IsUntold tracked
  := isUntold_get.bind fun _ => isUntold_pure _

theorem isUntold_object? (K : Kind) (ns name : String) :
  IsUntold (object? K ns name)
  := (isUntold_get.bind fun _ => isUntold_pure _).bind fun _ => isUntold_pure _

/-- A program is run in a world to its result. -/
theorem run_eq_some {program : Pass α} {w w' : World} {a : α} :
  run program w = some (a, w') ↔ program.run World.answer w = (some a, w')
  := by
  rw [run]
  rcases program.run World.answer w with ⟨_ | a', w₁⟩
  · exact iff_of_false nofun nofun
  · constructor
    · rintro ⟨⟩
      rfl
    · rintro ⟨⟩
      rfl

/-- A pass over an object is run, and what follows it tells nothing of the status. -/
theorem reconcile_cases {w w' : World} {report : PassReport}
    (h : reconcile K ns name w = some (report, w')) :
  ∃ ends w₁, (w.memory.pass w.settings w.now K ns name).run World.answer w = (some ends, w₁) ∧
    w₁.CountsOthers w'
  := by
  obtain ⟨⟨⟨result, memory⟩, w₁⟩, ran, goes⟩ := Option.bind_eq_some_iff.mp h
  dsimp only at goes
  refine ⟨_, w₁, run_eq_some.mp ran, IsUntold.counts ?_ goes⟩
  refine IsUntold.bind (isUntold_change ?_) fun _ => ?_
  · exact fun _ => rfl
  cases result with
  | ok directive =>
    refine IsUntold.bind (isUntold_change ?_) fun _ => ?_
    · exact fun _ => rfl
    exact isUntold_tracked.bind fun _ => isUntold_pure _
  | error f =>
    apply (isUntold_object? K ns name).bind
    rintro (_ | o)
    · apply (isUntold_retry _ f).bind
      intro retry
      exact isUntold_tracked.bind fun _ => isUntold_pure _
    · apply IsUntold.bind ((isUntold_count rfl).bind fun _ => isUntold_retry _ f)
      intro retry
      exact isUntold_tracked.bind fun _ => isUntold_pure _

end Simulation

/-! ## Passes in a world -/

namespace Visit

/-- The pass of a visit. -/
def pass (v : Visit) : Pass (Except PassFailure Directive × Memory) :=
  v.turn.memory.pass v.turn.settings v.turn.now v.kind v.ns v.name

end Visit

namespace World

/-- The operator makes passes in a world, one after the other and the last one first.  What
surrounds it may change between them, and other things may be counted. -/
inductive Passes (w : World) : List Visit → World → Prop
  | started : Passes w [] w
  | changed {visits : List Visit} {w₁ w₂ : World} (passes : Passes w visits w₁)
      (others : w₁.CountsOthers w₂) : Passes w visits w₂
  | visited {visits : List Visit} {w₁ : World} {v : Visit} (passes : Passes w visits w₁)
      (goes : v.turn.Goes v.ns v.name) (course : v.turn.course = v.pass.courseIn answer w₁) :
      Passes w (v :: visits) (v.pass.run answer w₁).2

namespace Passes

variable {w w' : World} {visits : List Visit}

/-- A pass that the simulated operator makes is one of its passes. -/
theorem reconciled {w₁ w₂ : World} {report : Simulation.PassReport} {stored : Object K}
    (passes : w.Passes visits w₁)
    (goes : (Turn.taken w₁.memory w₁.settings w₁.now stored ns name answer w₁).Goes ns name)
    (reconciles : Simulation.reconcile K ns name w₁ = some (report, w₂)) :
  w.Passes (⟨K, ns, name, .taken w₁.memory w₁.settings w₁.now stored ns name answer w₁⟩ :: visits)
    w₂
  := by
  obtain ⟨ends, w', ran, others⟩ := Simulation.reconcile_cases reconciles
  have visited := passes.visited (v := ⟨K, ns, name, _⟩) goes rfl
  apply visited.changed
  change (Prod.snd ((w₁.memory.pass w₁.settings w₁.now K ns name).run answer w₁)).CountsOthers w₂
  rw [ran]
  exact others

/-- What the metrics of a world show more after passes is what the passes count. -/
theorem exists_countedBy (h : w.Passes visits w') :
  ∃ counters, CountedBy visits counters ∧ w'.metrics = w.metrics.countAll counters
  := by
  induction h with
  | started =>
    exact ⟨[], ⟨List.forall_mem_nil _, List.forall_mem_nil _, .refl _⟩, rfl⟩
  | changed passes others ih =>
    obtain ⟨counters, counted, same⟩ := ih
    obtain ⟨more, untold, same'⟩ := others
    have none : more.filter Counter.isTally = [] := by
      simpa [List.filter_eq_nil_iff] using untold
    refine ⟨counters ++ more, ⟨counted.goes, counted.prompt, ?_⟩, ?_⟩
    · rw [List.filter_append, none, List.append_nil]
      exact counted.tallies
    · rw [same', same, Metrics.countAll_append]
  | @visited visits w₁ v passes goes course ih =>
    obtain ⟨counters, counted, same⟩ := ih
    have prompt : ¬ v.turn.PendsCount v.ns v.name := Turn.not_pendsCount_of_run course
    refine ⟨counters ++ Course.counted v.turn.course,
      ⟨List.forall_mem_cons.mpr ⟨goes, counted.goes⟩,
        List.forall_mem_cons.mpr ⟨prompt, counted.prompt⟩, ?_⟩, ?_⟩
    · rw [List.filter_append, List.flatMap_cons]
      exact List.perm_append_comm.trans (.append_left _ counted.tallies)
    · rw [metrics_run, same, course, Metrics.countAll_append]

open scoped Classical in
/-- The metrics of a world account for what is stored in it: the phase transitions grow by the
passes that enter the phase, and the writes that are put off by those that skip one. -/
theorem metrics_eq (h : w.Passes visits w') :
  (∀ (K : Kind) (phase : Phase),
    w'.metrics.value (.phaseTransitions K.name phase.name) =
      w.metrics.value (.phaseTransitions K.name phase.name) +
        visits.countP fun v => decide (v.Enters K phase)) ∧
  ∀ K : Kind,
    w'.metrics.value (.debouncedWrites K.name) =
      w.metrics.value (.debouncedWrites K.name) + visits.countP fun v => decide (v.Skips K)
  := by
  obtain ⟨counters, counted, same⟩ := h.exists_countedBy
  rw [same]
  exact ⟨counted.value_phaseTransitions _, counted.value_debouncedWrites _⟩

end Passes

end World

end CloudOperator
