import CloudOperator.Proofs.PhaseOrder
import CloudOperator.Proofs.Run

/-!
# Delivery of specifications

A turn delivers the specification of an object if it creates its remote resource, or
updates it because the specification changed, and succeeds.  An object in the phase
`Created` whose generation is observed should be one whose last delivery was of that very
generation.

That is so unless a change of the specification was overlooked
(`Run.deliveredAt_iff_not_overlooked`): the poll that finds a provisioned resource ready
takes note of the generation of that moment, though nothing of it was sent, if the
specification changed while the resource was provisioned.
-/

namespace CloudOperator

open Program

variable {K : Kind} {ns name : String}

/-- An edit that leaves the status, and does not lower the generation. -/
structure Object.SpecEdit (o o' : Object K) : Prop where
  status : o'.status = o.status
  generation : o.generation ≤ o'.generation

namespace Turn

variable {t : Turn K}

/-- The turn creates the remote resource, or updates it because the specification changed,
with success. -/
def Delivers (t : Turn K) (ns name : String) : Prop :=
  ∃ actor work carried decision o, t.Works ns name actor work carried decision o ∧
    (t.stored.phase = some .creating ∧
        (∃ created, Takes (t.stored.create actor) work (some (.ok created))) ∨
      t.stored.phase = some .updating ∧ t.stored.generationChanged ∧
        Takes (t.stored.update actor true) work (some (.ok (), o)))

/-- The last turn that delivered a specification did so for a generation. -/
def DeliveredAt (ns name : String) (generation : Int64) : List (Turn K) → Prop
  | [] => False
  | t :: turns =>
    t.Delivers ns name ∧ t.stored.generation = generation ∨
      ¬ t.Delivers ns name ∧ DeliveredAt ns name generation turns

/-- Since the last delivery a turn found a provisioned resource ready, while the
generation was another one than that of the delivery. -/
def Overlooked (ns name : String) : List (Turn K) → Prop
  | [] => False
  | t :: turns =>
    ¬ t.Delivers ns name ∧
      (t.stored.phase = some .provisioning ∧ t.after.phase = some .created ∧
          ¬ DeliveredAt ns name t.stored.generation turns ∨
        Overlooked ns name turns)

variable {turns : List (Turn K)} {generation : Int64}

theorem deliveredAt_cons_of_delivers (delivers : t.Delivers ns name) :
  DeliveredAt ns name generation (t :: turns) ↔ t.stored.generation = generation
  := by
  simp [DeliveredAt, delivers]

theorem deliveredAt_cons_of_not_delivers (keeps : ¬ t.Delivers ns name) :
  DeliveredAt ns name generation (t :: turns) ↔ DeliveredAt ns name generation turns
  := by
  simp [DeliveredAt, keeps]

/-- No turn delivered a generation if none that has it delivers. -/
theorem not_deliveredAt
    (h : ∀ t ∈ turns, t.stored.generation = generation → ¬ t.Delivers ns name) :
  ¬ DeliveredAt ns name generation turns
  := by
  induction turns with
  | nil => exact id
  | cons t turns ih =>
    rintro (⟨delivers, same⟩ | ⟨-, delivered⟩)
    · apply h t List.mem_cons_self same delivers
    · apply ih (fun u found => h u (List.mem_cons_of_mem _ found)) delivered

theorem not_overlooked_cons_of_delivers (delivers : t.Delivers ns name) :
  ¬ Overlooked ns name (t :: turns)
  := fun overlooked => overlooked.1 delivers

/-- Only the turn that finds a provisioned resource ready can overlook a change. -/
theorem overlooked_cons_of_not_delivers (keeps : ¬ t.Delivers ns name)
    (unready : ¬ (t.stored.phase = some .provisioning ∧ t.after.phase = some .created)) :
  Overlooked ns name (t :: turns) ↔ Overlooked ns name turns
  := by
  constructor
  · rintro ⟨-, ⟨provisioning, created, -⟩ | overlooked⟩
    · cases unready ⟨provisioning, created⟩
    · apply overlooked
  · exact fun overlooked => ⟨keeps, .inr overlooked⟩

/-- A specification is delivered by an object that is being created or updated, in the
latter case only if the generation is not yet observed. -/
theorem Delivers.cases (delivers : t.Delivers ns name) :
  t.stored.phase = some .creating ∨
    t.stored.phase = some .updating ∧ t.stored.observedGeneration ≠ t.stored.generation
  := by
  obtain ⟨actor, work, carried, decision, o, -, ⟨phase, -⟩ | ⟨phase, changed, -⟩⟩ := delivers
  · exact .inl phase
  · exact .inr ⟨phase, of_decide_eq_true changed⟩

/-- Nothing is delivered in other phases, nor by an update of an observed generation. -/
theorem not_delivers (uncreating : t.stored.phase ≠ some .creating)
    (unchanged : t.stored.phase = some .updating →
      t.stored.observedGeneration = t.stored.generation) :
  ¬ t.Delivers ns name
  := by
  intro delivers
  obtain creating | ⟨updating, changed⟩ := delivers.cases
  · apply uncreating creating
  · apply changed (unchanged updating)

end Turn

open Turn

/-- What the turns so far account for: the observed generation is one that the object had;
and while the remote resource is provisioned, created or updated, the last delivery was of
the generation that is observed, unless a change was overlooked. -/
structure Accounted (ns name : String) (turns : List (Turn K)) (o : Object K) : Prop where
  observed : o.phase ≠ none → o.observedGeneration ≤ o.generation
  provisioning : o.phase = some .provisioning → ¬ Overlooked ns name turns
  created : o.phase = some .created →
    (DeliveredAt ns name o.observedGeneration turns ↔ ¬ Overlooked ns name turns)
  updating : o.phase = some .updating → o.observedGeneration < o.generation ∨
    (DeliveredAt ns name o.observedGeneration turns ↔ ¬ Overlooked ns name turns)

namespace Accounted

variable {turns : List (Turn K)} {o o' : Object K} {t : Turn K}

theorem of_phase_eq_none (phase : o.phase = none) :
  Accounted ns name turns o
  := by
  constructor <;> simp [phase]

/-- An edit that raises the generation leaves what is observed below it. -/
theorem edited (h : Accounted ns name turns o) (edit : o.SpecEdit o') :
  Accounted ns name turns o'
  := by
  have phase : o'.phase = o.phase := Object.phase_congr edit.status
  have observed : o'.observedGeneration = o.observedGeneration :=
    Object.observedGeneration_congr edit.status
  constructor
  · rw [phase, observed]
    exact fun some => Int64.le_trans (h.observed some) edit.generation
  · rw [phase]
    apply h.provisioning
  · rw [phase, observed]
    apply h.created
  · rw [phase, observed]
    intro updating
    obtain less | same := h.updating updating
    · exact .inl (Int64.lt_of_lt_of_le less edit.generation)
    · exact .inr same

/-- A turn that stores no other phase and observes nothing accounts for what was accounted
for before: if it delivers a changed specification, the object is still being updated. -/
theorem stayed (h : Accounted ns name turns t.stored) (phase : t.after.phase = t.stored.phase)
    (observed : t.after.observedGeneration = t.stored.observedGeneration) :
  Accounted ns name (t :: turns) t.after
  := by
  have unready : ¬ (t.stored.phase = some .provisioning ∧ t.after.phase = some .created) := by
    rintro ⟨provisioning, created⟩
    rw [phase, provisioning] at created
    cases created
  by_cases delivers : t.Delivers ns name
  · obtain creating | ⟨updating, changed⟩ := delivers.cases
    · constructor
      · rw [phase, observed, generation_after]
        apply h.observed
      all_goals simp [phase, creating]
    · constructor
      · rw [phase, observed, generation_after]
        apply h.observed
      · exact fun _ => not_overlooked_cons_of_delivers delivers
      · simp [phase, updating]
      · rw [phase, observed, generation_after]
        have known : t.stored.phase ≠ none := by simp [updating]
        exact fun _ => .inl (Int64.lt_of_le_of_ne (h.observed known) changed)
  · constructor
    · rw [phase, observed, generation_after]
      apply h.observed
    · rw [phase, overlooked_cons_of_not_delivers delivers unready]
      apply h.provisioning
    · rw [phase, observed, overlooked_cons_of_not_delivers delivers unready,
        deliveredAt_cons_of_not_delivers delivers]
      apply h.created
    · rw [phase, observed, generation_after, overlooked_cons_of_not_delivers delivers unready,
        deliveredAt_cons_of_not_delivers delivers]
      apply h.updating

/-- A turn that delivers the specification observes its generation, if the object is
created after it. -/
theorem delivered (delivers : t.Delivers ns name)
    (bounded : t.after.observedGeneration ≤ t.after.generation)
    (observed : t.after.phase = some .created → t.after.observedGeneration = t.stored.generation)
    (settled : t.after.phase ≠ some .updating) :
  Accounted ns name (t :: turns) t.after
  where
  observed _ := bounded
  provisioning _ := not_overlooked_cons_of_delivers delivers
  created created := by
    rw [deliveredAt_cons_of_delivers delivers, observed created]
    simp [not_overlooked_cons_of_delivers delivers]
  updating updating := by cases settled updating

/-- The turn that finds a provisioned resource ready overlooks a change, unless the last
delivery was of the generation that it observes. -/
theorem ready (h : Accounted ns name turns t.stored)
    (provisioning : t.stored.phase = some .provisioning) (created : t.after.phase = some .created)
    (observed : t.after.observedGeneration = t.stored.generation) :
  Accounted ns name (t :: turns) t.after
  := by
  have keeps : ¬ t.Delivers ns name := by
    apply not_delivers <;> simp [provisioning]
  constructor
  · intro _
    rw [observed, generation_after]
    apply Int64.le_refl
  · simp [created]
  · intro _
    rw [observed, deliveredAt_cons_of_not_delivers keeps]
    simp [Overlooked, keeps, provisioning, created, h.provisioning provisioning]
  · simp [created]

/-- A turn that ends an update for anything but a change of the specification observes
what was observed before. -/
theorem matched (h : Accounted ns name turns t.stored)
    (updating : t.stored.phase = some .updating) (created : t.after.phase = some .created)
    (unchanged : t.stored.observedGeneration = t.stored.generation)
    (observed : t.after.observedGeneration = t.stored.generation) :
  Accounted ns name (t :: turns) t.after
  := by
  have keeps : ¬ t.Delivers ns name := by
    apply not_delivers
    · simp [updating]
    · exact fun _ => unchanged
  have unready : ¬ (t.stored.phase = some .provisioning ∧ t.after.phase = some .created) := by
    simp [updating]
  constructor
  · intro _
    rw [observed, generation_after]
    apply Int64.le_refl
  · simp [created]
  · intro _
    rw [observed, deliveredAt_cons_of_not_delivers keeps,
      overlooked_cons_of_not_delivers keeps unready, ← unchanged]
    obtain less | same := h.updating updating
    · rw [unchanged] at less
      cases Int64.lt_irrefl less
    · apply same
  · simp [created]

/-- A turn that begins an update observes nothing. -/
theorem outdated (h : Accounted ns name turns t.stored) (after : t.after.phase = some .updating)
    (observed : t.after.observedGeneration = t.stored.observedGeneration)
    (before : t.stored.phase = some .created ∨
      t.stored.phase = some .failed ∧ t.stored.generationChanged) :
  Accounted ns name (t :: turns) t.after
  := by
  have bounded : t.stored.observedGeneration ≤ t.stored.generation := by
    apply h.observed
    obtain created | ⟨failed, -⟩ := before
    · simp [created]
    · simp [failed]
  constructor
  · intro _
    rw [observed, generation_after]
    apply bounded
  · simp [after]
  · simp [after]
  · intro _
    rw [observed, generation_after]
    obtain created | ⟨failed, changed⟩ := before
    · right
      have keeps : ¬ t.Delivers ns name := by
        apply not_delivers <;> simp [created]
      rw [deliveredAt_cons_of_not_delivers keeps,
        overlooked_cons_of_not_delivers keeps (by simp [created])]
      apply h.created created
    · exact .inl (Int64.lt_of_le_of_ne bounded (of_decide_eq_true changed))

/-- Nothing has to be accounted for in the other phases but that the observed generation is
one that the object had. -/
theorem idle {phase : Phase} (after : t.after.phase = some phase)
    (bounded : t.after.observedGeneration ≤ t.after.generation)
    (other : phase = .creating ∨ phase = .deleting ∨ phase = .failed) :
  Accounted ns name (t :: turns) t.after
  := by
  obtain rfl | rfl | rfl := other
  all_goals constructor <;> simp [after, bounded]

/-- The observed generation stays one that the object had: an object without a phase
enters one that records the generation. -/
theorem bounded {move : Move} (h : Accounted ns name turns t.stored)
    (moves : t.Moves ns name o move) (entering : t.stored.phase ≠ some move.phase)
    (after : t.after.status = (o.moved move t.now).status) :
  t.after.observedGeneration ≤ t.after.generation
  := by
  obtain ⟨-, observed⟩ := moves.shows after
  rw [observed, generation_after]
  by_cases noted : t.stored.phase ≠ some move.phase ∧ move.phase.recordsGeneration
  · rw [if_pos noted]
    apply Int64.le_refl
  rw [if_neg noted]
  apply h.observed
  intro fresh
  obtain same | follows := moves.next
  · apply entering same
  apply noted
  simp only [fresh, Phase.next, List.mem_cons, List.not_mem_nil, or_false] at follows
  obtain creating | deleting := follows
  · exact ⟨entering, by rw [creating]; rfl⟩
  · exact ⟨entering, by rw [deleting]; rfl⟩

/-- What the turns account for is accounted for after one more turn. -/
theorem turned (h : Accounted ns name turns t.stored) (goes : t.Goes ns name) :
  Accounted ns name (t :: turns) t.after
  := by
  obtain ⟨-, same⟩ | ⟨-, o, move, moves, after⟩ := goes.status
  · apply h.stayed (Object.phase_congr same) (Object.observedGeneration_congr same)
  obtain ⟨phase, observed⟩ := moves.shows after
  by_cases staying : t.stored.phase = some move.phase
  · apply h.stayed (phase.trans staying.symm)
    rw [observed, if_neg (fun entering => entering.1 staying)]
  have bounded := h.bounded moves staying after
  have recorded (records : move.phase.recordsGeneration) :
      t.after.observedGeneration = t.stored.generation := by
    rw [observed, if_pos ⟨staying, records⟩]
  have unrecorded (other : move.phase.recordsGeneration = false) :
      t.after.observedGeneration = t.stored.observedGeneration := by
    rw [observed, other, if_neg (by simp)]
  cases moves with
  | preempts preempts =>
    obtain deleting | failed := Object.phase_of_preempting preempts.preempting
    · apply idle phase bounded (.inr (.inl deleting))
    · apply idle phase bounded (.inr (.inr failed))
  | @works actor work carried decision _ _ works leads makes =>
    cases leads with
    | enrolled _ =>
      obtain rfl := Option.some.inj makes
      apply idle phase bounded (.inl rfl)
    | created creating creates settled =>
      obtain rfl := Option.some.inj makes
      have delivers : t.Delivers ns name :=
        ⟨actor, work, carried, _, _, works, .inl ⟨creating, _, creates⟩⟩
      obtain rfl | rfl := settled
      · apply delivered delivers bounded (by simp [phase, Move.provisioning])
          (by simp [phase, Move.provisioning])
      · apply delivered delivers bounded (fun _ => recorded rfl) (by simp [phase, Move.created])
    | polled provisioning told =>
      obtain rfl := Option.some.inj makes
      obtain rfl | rfl | ⟨state, rfl⟩ := told
      · cases staying provisioning
      · apply h.ready provisioning phase (recorded rfl)
      · apply idle phase bounded (.inr (.inr rfl))
    | drifted created =>
      obtain rfl := Option.some.inj makes
      apply h.outdated phase (unrecorded rfl) (.inl created)
    | changed created =>
      obtain rfl := Option.some.inj makes
      apply h.outdated phase (unrecorded rfl) (.inl created)
    | updated updating updates =>
      obtain rfl := Option.some.inj makes
      by_cases changed : t.stored.generationChanged
      · rw [changed] at updates
        have delivers : t.Delivers ns name :=
          ⟨actor, work, carried, _, _, works, .inr ⟨updating, changed, updates⟩⟩
        apply delivered delivers bounded (fun _ => recorded rfl) (by simp [phase, Move.updated])
      · have unchanged : t.stored.observedGeneration = t.stored.generation := by
          simpa [Object.generationChanged] using changed
        apply h.matched updating phase unchanged (recorded rfl)
    | deleted _ _ =>
      obtain rfl := Option.some.inj makes
      apply idle phase bounded (.inr (.inl rfl))
    | retried _ _ _ _ =>
      obtain rfl := Option.some.inj makes
      apply idle phase bounded (.inl rfl)
    | resumed failed changed _ _ =>
      obtain rfl := Option.some.inj makes
      apply h.outdated phase (unrecorded rfl) (.inr ⟨failed, changed⟩)
    | @failed _ current cause is working unanswered rewired =>
      obtain rfl := Option.some.inj makes
      rw [rewired.phase, is] at staying phase
      obtain same | failed := Move.phase_ofFailure current cause
      · cases staying (congrArg some same.symm)
      · apply idle phase bounded (.inr (.inr failed))
    | matching | released | resting | waiting => cases makes

end Accounted

namespace Run

variable {initial o : Object K} {turns : List (Turn K)}

/-- The turns of a run of an object without a status account for what it shows. -/
theorem accounted (run : Run Object.SpecEdit ns name initial turns o)
    (fresh : initial.status = none) :
  Accounted ns name turns o
  := by
  induction run with
  | start =>
    apply Accounted.of_phase_eq_none
    simp [Object.phase, fresh]
  | edited _ edit ih => exact ih.edited edit
  | turned _ goes ih => exact ih.turned goes

/-- An object that was created, and whose generation is observed, had that very generation
when its specification was last delivered, unless a change was overlooked since then. -/
theorem deliveredAt_iff_not_overlooked (run : Run Object.SpecEdit ns name initial turns o)
    (fresh : initial.status = none) (created : o.phase = some .created)
    (observed : o.observedGeneration = o.generation) :
  DeliveredAt ns name o.generation turns ↔ ¬ Overlooked ns name turns
  := by
  rw [← observed]
  exact (run.accounted fresh).created created

namespace Payments

/-- The project is enrolled. -/
def enrolling : Turn .project :=
  .ofProject 0 .payments (reportOn "Active") none

/-- Its remote resource is created, and has to be set up. -/
def creating : Turn .project :=
  .ofProject 1 enrolling.after (reportOn "InCreation") none

/-- The project with another specification, before the remote resource is ready. -/
def changed : Object .project :=
  { creating.after with metadata := { creating.after.metadata with generation := some 2 } }

/-- The remote resource is found ready. -/
def polling : Turn .project :=
  .ofProject 2 changed (reportOn "Active") none

theorem run :
  Run Object.SpecEdit "shop" "payments" .payments [polling, creating, enrolling] polling.after
  := by
  apply turned _ (Turn.goes_ofProject ..)
  apply edited (o := creating.after)
  · apply turned _ (Turn.goes_ofProject ..)
    apply turned _ (Turn.goes_ofProject ..)
    apply start
  · refine ⟨rfl, ?_⟩
    rw [generation_after]
    change enrolling.after.generation ≤ _
    rw [generation_after]
    decide

theorem shown :
  polling.stored.phase = some .provisioning ∧ polling.after.phase = some .created ∧
    polling.after.observedGeneration = 2
  := by
  decide +kernel

theorem observed :
  polling.after.observedGeneration = polling.after.generation
  := by
  rw [shown.2.2, generation_after]
  rfl

end Payments

/-- The exact condition, where a project was changed while its resource was provisioned. -/
theorem deliveredAt_iff_not_overlooked_payments :
  DeliveredAt "shop" "payments" Payments.polling.after.generation
      [Payments.polling, Payments.creating, Payments.enrolling] ↔
    ¬ Overlooked "shop" "payments" [Payments.polling, Payments.creating, Payments.enrolling]
  := deliveredAt_iff_not_overlooked Payments.run rfl Payments.shown.2.1 Payments.observed

/-- A change is lost: the second generation is observed, but only the first was delivered. -/
theorem change_lost :
  ∃ (turns : List (Turn .project)) (o : Object .project),
    Run Object.SpecEdit "shop" "payments" .payments turns o ∧
      Object.payments.status = none ∧ o.phase = some .created ∧
      o.observedGeneration = o.generation ∧
      ¬ DeliveredAt "shop" "payments" o.generation turns
  := by
  refine ⟨_, _, Payments.run, rfl, Payments.shown.2.1, Payments.observed, ?_⟩
  rw [generation_after]
  apply not_deliveredAt
  intro t found same
  simp only [List.mem_cons, List.not_mem_nil, or_false] at found
  obtain rfl | rfl | rfl := found
  · apply not_delivers <;> simp [Payments.shown.1]
  · change Payments.enrolling.after.generation = _ at same
    rw [generation_after] at same
    cases same
  · cases same

end Run

end CloudOperator
