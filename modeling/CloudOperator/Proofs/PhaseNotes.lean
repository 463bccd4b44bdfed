import CloudOperator.Proofs.Cleanup
import CloudOperator.Proofs.Delivery

/-!
# What a status notes of its phase

A status tells when its phase started, and which generation was observed.  A turn moves
neither unless it moves the phase; only a start that is missing is noted by whatever is stored
next (`Turn.Goes.notesPhase`).  So turns that stay in a phase leave both as they were, however
many there are and whether they are written or not (`Run.notes_follow_phase`).
-/

namespace CloudOperator

variable {K : Kind} {ns name : String}

namespace Turn

variable {t : Turn K}

/-- What the status notes of its phase after a turn. -/
structure NotesPhase (t : Turn K) : Prop where
  phaseStartTime : t.after.phaseStartTime =
    if t.after.phase ≠ t.stored.phase ∨ t.stored.phaseStartTime = none ∧ t.StoresStatus then
      some (Timestamp.seconds t.now)
    else t.stored.phaseStartTime
  observedGeneration : t.after.observedGeneration =
    if t.after.phase ≠ t.stored.phase ∧
        t.after.phase ∈ [some .creating, some .created, some .deleting, some .failed] then
      t.stored.generation
    else t.stored.observedGeneration

theorem NotesPhase.of_unstored (unstored : ¬ t.StoresStatus)
    (same : t.after.status = t.stored.status) :
  t.NotesPhase
  where
  phaseStartTime := by
    simp [Object.phase_congr same, Object.phaseStartTime_congr same, unstored]
  observedGeneration := by
    simp [Object.phase_congr same, Object.observedGeneration_congr same]

theorem Goes.notesPhase (h : t.Goes ns name) :
  t.NotesPhase
  := by
  obtain ⟨unstored, same⟩ | ⟨stores, o, move, moves, after⟩ := h.status
  · exact .of_unstored unstored same
  obtain ⟨phase, observed⟩ := moves.shows after
  have records : move.phase.recordsGeneration = true ↔
      some move.phase ∈ [some .creating, some .created, some .deleting, some .failed] := by
    cases move.phase <;> decide
  constructor
  · rw [moves.starts after, phase]
    simp [stores, eq_comm]
  · rw [observed, phase]
    have entered := propext (and_congr (@ne_comm _ t.stored.phase (some move.phase)) records)
    exact ite_congr entered (fun _ => rfl) fun _ => rfl

/-- A turn that stays in a phase keeps what is noted of it. -/
theorem NotesPhase.of_phase_eq (h : t.NotesPhase) (stays : t.after.phase = t.stored.phase) :
  t.after.observedGeneration = t.stored.observedGeneration ∧
    (t.stored.phaseStartTime ≠ none → t.after.phaseStartTime = t.stored.phaseStartTime)
  := by
  constructor
  · rw [h.observedGeneration, if_neg fun moved => moved.1 stays]
  · intro started
    rw [h.phaseStartTime, if_neg]
    rintro (moved | ⟨missing, -⟩)
    · apply moved stays
    · apply started missing

end Turn

namespace Run

variable {initial o : Object K} {turns : List (Turn K)}

/-- Turns that stay in a phase keep what is noted of it. -/
theorem notes_of_phase_eq (run : Run Object.StatusKept ns name initial turns o)
    (stay : ∀ t ∈ turns, t.after.phase = t.stored.phase) :
  o.observedGeneration = initial.observedGeneration ∧
    (initial.phaseStartTime ≠ none → o.phaseStartTime = initial.phaseStartTime)
  := by
  induction run with
  | start => exact ⟨rfl, fun _ => rfl⟩
  | @edited turns o o' run edit ih =>
    rw [Object.observedGeneration_congr edit, Object.phaseStartTime_congr edit]
    apply ih stay
  | @turned turns t run goes ih =>
    obtain ⟨stays, earlier⟩ := List.forall_mem_cons.mp stay
    obtain ⟨observed, started⟩ := goes.notesPhase.of_phase_eq stays
    obtain ⟨observed', started'⟩ := ih earlier
    refine ⟨observed.trans observed', fun present => ?_⟩
    have stored := started' present
    rw [started (stored ▸ present), stored]

/-- Every turn notes what it should of the phase, and turns that stay in a phase note
nothing. -/
theorem notes_follow_phase (run : Run Object.StatusKept ns name initial turns o) :
  (∀ t ∈ turns, t.NotesPhase) ∧
    ((∀ t ∈ turns, t.after.phase = t.stored.phase) →
      o.observedGeneration = initial.observedGeneration ∧
        (initial.phaseStartTime ≠ none → o.phaseStartTime = initial.phaseStartTime))
  := ⟨fun _ found => (run.of_mem found).1.notesPhase, run.notes_of_phase_eq⟩

namespace Payments

/-- After the change of the specification the remote resource is still being set up. -/
def waiting : Turn .project :=
  .ofProject 12 changed (Turn.reportOn "InCreation") none

theorem waited :
  Run Object.StatusKept "shop" "payments" creating.after [waiting] waiting.after
  := by
  apply turned _ (Turn.goes_ofProject ..)
  apply edited start
  exact rfl

/-- The status is stored, in the phase that it was in. -/
theorem stays :
  waiting.StoresStatus ∧ waiting.after.phase = waiting.stored.phase ∧
    creating.after.phaseStartTime ≠ none
  := by
  decide +kernel

end Payments

/-- The phase of a project that is waited for, and whose change is not sent yet. -/
theorem notes_follow_phase_payments :
  (∀ t ∈ [Payments.waiting], t.NotesPhase) ∧ Payments.waiting.StoresStatus ∧
    Payments.waiting.after.observedGeneration = Payments.creating.after.observedGeneration ∧
    Payments.waiting.after.phaseStartTime = Payments.creating.after.phaseStartTime
  := by
  obtain ⟨stores, stays, started⟩ := Payments.stays
  obtain ⟨notes, kept⟩ := notes_follow_phase Payments.waited
  obtain ⟨observed, start⟩ := kept (List.forall_mem_singleton.mpr stays)
  exact ⟨notes, stores, observed, start started⟩

end Run

end CloudOperator
