import CloudOperator.Proofs.Debounce
import CloudOperator.Proofs.Delivery
import CloudOperator.Proofs.PhaseOrder
import CloudOperator.Proofs.Run
import Mathlib.Data.List.Chain

/-!
# Writes of a process are spaced

One process writes the status of an object in the phase that it is in at most once in an
interval (`Run.writes_spaced`).  The writes are counted from the last one that the process
remembers.  It remembers that of the turn that stored the status, since every turn that stores
one is remembered (`Turn.Writes.left`), and a turn that stores none leaves what is remembered
unless there is no object any more (`Turn.Leaves.left`).  The start of the phase is never later
than that write (`Turn.Writes.exists_start_le`), so it does not put the next one off or bring it
forward.

The process may give a turn up.  A write that was applied though its answer was lost is no
write that the process knows of; it counts as an edit by another client.
-/

namespace CloudOperator

open Program

variable {K : Kind} {ns name : String}

namespace Turn

variable {t u : Turn K} {o : Object K} {move : Move} {key : String}

/-- What a turn leaves of the history of the writes.  A turn that is given up remembers what it
stored before. -/
def left (t : Turn K) : WriteHistory :=
  match t.result?, t.after.phase with
  | some (_, memory), _ => memory.writes
  | none, some phase =>
    if t.StoresStatus then t.memory.writes.record t.stored.key phase t.now else t.memory.writes
  | none, none => t.memory.writes

/-- A write is remembered. -/
theorem Writes.left (h : t.Writes ns name o move) :
  t.left = t.memory.writes.record t.stored.key move.phase t.now
  := by
  have key : o.key = t.stored.key := by
    rw [Object.key, h.moves.keeps.metadata, Object.key]
  have phase := (h.moves.shows h.status).1
  rw [Turn.left, phase]
  cases ends : t.result? with
  | some result =>
    obtain ⟨result, memory⟩ := result
    rw [← key]
    apply h.recorded result memory ends
  | none => exact if_pos h.stores

/-- A turn that writes nothing leaves what is remembered, unless there is no object any more. -/
theorem Leaves.left (h : t.Leaves ns name) (found : ¬ t.FindsMissing ns name)
    (kept : ¬ t.CompletesDeletion ns name) :
  t.left = t.memory.writes
  := by
  rw [Turn.left]
  cases ends : t.result? with
  | some result =>
    obtain ⟨result, memory⟩ := result
    obtain same | missing | completes := h.remembers result memory ends
    · apply same
    · cases found missing
    · cases kept completes
  | none =>
    cases t.after.phase with
    | some phase => exact if_neg h.unstored
    | none => rfl

/-- A move that stays in its phase asks for another pass. -/
theorem Moves.requeue (h : t.Moves ns name o move) (stays : t.stored.phase = some move.phase) :
  move.requeue
  := by
  cases h with
  | preempts preempts =>
    obtain ⟨overdue, rfl⟩ | ⟨-, rfl⟩ := Object.preempting_cases preempts.preempting
    · obtain ⟨phase, current, transitioning⟩ := Object.phase_of_isOverdue overdue
      cases current.symm.trans stays
      cases transitioning
    · rfl
  | works works leads makes =>
    cases leads with
    | created _ _ settled =>
      cases makes
      obtain rfl | rfl := settled
      · rfl
      · rfl
    | polled phase told =>
      cases makes
      obtain rfl | rfl | ⟨state, rfl⟩ := told
      · rfl
      · rfl
      · cases phase.symm.trans stays
    | @failed _ current cause is working =>
      cases makes
      apply Move.requeue_ofFailure
      rintro failed
      rw [failed] at stays
      cases is.symm.trans stays
      apply working rfl
    | enrolled | drifted | changed | updated | deleted | retried | resumed =>
      cases makes
      rfl
    | matching | released | resting | waiting => cases makes

/-- The phase of an object whose status a turn stored did not start after that turn. -/
theorem Writes.exists_start_le {interval : Nat} (h : t.Writes ns name o move)
    (bounds : IsInterval interval) (settings : t.settings.requeueInterval = interval)
    (reading : t.now.IsReading)
    (readable : t.stored.phaseStartTime ≠ none → t.stored.phaseStartedAt ≠ none) :
  ∃ start, t.after.phaseStartedAt = some start ∧ start ≤ t.now
  := by
  have keeps := h.moves.keeps
  have starts := h.moves.starts h.status
  split at starts
  · refine ⟨t.now.startOfSecond, ?_, t.now.startOfSecond_le⟩
    rw [Object.phaseStartedAt_eq, starts, Option.bind_some, Timestamp.read_seconds reading]
  · obtain ⟨stays, present⟩ := not_or.mp ‹_›
    have stays := Classical.not_not.mp stays
    obtain ⟨start, started⟩ := Option.ne_none_iff_exists'.mp (readable present)
    have started' : o.phaseStartedAt = some start := by
      rw [Object.phaseStartedAt_eq, keeps.phaseStartTime, ← Object.phaseStartedAt_eq, started]
    obtain ⟨anchor, anchored, later⟩ :=
      Object.exists_anchor? t.memory.writes move.phase started'
    have requeues := h.moves.requeue stays
    have due := h.due
    rw [settings] at due
    obtain ⟨reached, -⟩ :=
      Object.due_of_debounce? bounds requeues (keeps.phase.trans stays) anchored due
    refine ⟨start, ?_, Instant.le_trans later reached⟩
    rw [Object.phaseStartedAt_eq, starts, ← Object.phaseStartedAt_eq, started]

/-- A turn whose move has to wait stores nothing, and asks for another pass unless it is given
up. -/
theorem Moves.waits (h : t.Moves ns name o move) (goes : t.Goes ns name)
    (stays : t.stored.phase = some move.phase) {duration : Nat}
    (waits : o.debounce? t.memory.writes t.settings.requeueInterval move t.now
      = some (some duration)) :
  ¬ t.StoresStatus ∧
    ((∃ memory, t.result? = some (.ok (.after duration), memory)) ∨ t.GivenUp ns name)
  := by
  have unstored {first carried : Course} (course : t.course = first ++ carried)
      (unwritten : ∀ exchange ∈ first, exchange.question.isWrite = false)
      (none : ∀ exchange ∈ carried, exchange.storesStatus = false) : ¬ t.StoresStatus := by
    rintro ⟨exchange, found, stores⟩
    rw [course] at found
    rw [unstored_append unwritten none exchange found] at stores
    cases stores
  cases h with
  | preempts preempts =>
    obtain ⟨opening, course, quiet⟩ := isQuiet_of_reaches preempts.reaches
    obtain ⟨tokens, result?, carries, result, givesUp⟩ := preempts.carried goes
    obtain ⟨none, rfl | awaits⟩ := Task.waits_move waits carries
    · exact ⟨unstored course (fun exchange found => (quiet exchange found).2) none,
        .inl ⟨_, result⟩⟩
    · exact ⟨unstored course (fun exchange found => (quiet exchange found).2) none,
        .inr (givesUp awaits)⟩
  | @works _ _ _ decision _ _ works leads makes =>
    obtain ⟨opening, course, -, unwritten⟩ := works.split
    obtain ⟨tokens, result?, carries, result, givesUp⟩ := works.carried goes
    have enrolled : decision ≠ .enroll := by
      rintro rfl
      obtain ⟨phase⟩ := leads
      cases phase.symm.trans stays
    obtain ⟨none, rfl | awaits⟩ := Task.waits_carryOut makes enrolled waits carries
    · exact ⟨unstored course unwritten none, .inl ⟨_, result⟩⟩
    · exact ⟨unstored course unwritten none, .inr (givesUp awaits)⟩

end Turn

/-- An edit that leaves the object under its key.  Other clients may write the status. -/
def Object.KeyKept (o o' : Object K) : Prop :=
  o'.key = o.key

/-- Turns of one process on the object of a key: the interval is the same for all, the clock
reads times in the years 0 to 9999, the start of a phase can be read if there is one, and each
turn remembers of the object what the turn before it left. -/
structure OfProcess (interval : Nat) (key : String) (turns : List (Turn K)) : Prop where
  settings : ∀ t ∈ turns, t.settings.requeueInterval = interval
  readings : ∀ t ∈ turns, t.now.IsReading
  readable : ∀ t ∈ turns, t.stored.phaseStartTime ≠ none → t.stored.phaseStartedAt ≠ none
  remembers : turns.IsChain fun t u => Table.find? t.memory.writes key = Table.find? u.left key

/-- What a turn left is remembered until another one leaves something else. -/
theorem OfProcess.find?_eq {interval : Nat} {key : String} {t u : Turn K}
    {later earlier : List (Turn K)} (h : OfProcess interval key (t :: (later ++ u :: earlier)))
    (kept : ∀ v ∈ later, v.left = v.memory.writes) :
  Table.find? t.memory.writes key = Table.find? u.left key
  := by
  have remembers := h.remembers
  clear h
  induction later generalizing t with
  | nil => apply (List.isChain_cons_cons.mp remembers).1
  | cons v later ih =>
    obtain ⟨same, rest⟩ := List.isChain_cons_cons.mp remembers
    obtain ⟨first, others⟩ := List.forall_mem_cons.mp kept
    rw [same, first]
    apply ih others rest

namespace Run

variable {initial : Object K} {t u : Turn K} {turns later earlier : List (Turn K)} {interval : Nat}

theorem key_stored (run : Run Object.KeyKept ns name initial turns t.stored) :
  t.stored.key = initial.key
  := by
  apply run.keeps (p := (·.key = initial.key)) _ _ rfl
  · exact fun edit same => edit.trans same
  · intro t _ same
    rw [← same]
    exact Object.view_after Object.key (fun _ _ _ => rfl) (fun _ _ _ => rfl) t.stored t.course

/-- If the status was stored last by a turn of the same process, and the process still
remembers it, then the writes of the phase are counted from that turn. -/
theorem anchor?_eq (bounds : IsInterval interval)
    (run : Run Object.KeyKept ns name initial (later ++ u :: earlier) t.stored)
    (process : OfProcess interval initial.key (t :: (later ++ u :: earlier)))
    (stored : u.StoresStatus) (previous : t.stored.status = u.after.status)
    (kept : ∀ v ∈ later,
      ¬ v.StoresStatus ∧ ¬ v.FindsMissing ns name ∧ ¬ v.CompletesDeletion ns name)
    {o : Object K} {phase : Phase} (keeps : t.stored.Keeps o)
    (current : t.stored.phase = some phase) :
  o.anchor? t.memory.writes phase = some u.now
  := by
  have among : u ∈ later ++ u :: earlier := List.mem_append_right _ List.mem_cons_self
  obtain ⟨u_goes, _, -, u_run⟩ := run.of_mem among
  obtain leaves | ⟨o', move, writes⟩ := u_goes.writes
  · cases leaves.unstored stored
  have settings := process.settings u (List.mem_cons_of_mem _ among)
  have reading := process.readings u (List.mem_cons_of_mem _ among)
  have readable := process.readable u (List.mem_cons_of_mem _ among)
  obtain ⟨start, started, before⟩ := writes.exists_start_le bounds settings reading readable
  have started' : o.phaseStartedAt = some start := by
    rw [Object.phaseStartedAt_eq, keeps.phaseStartTime, Object.phaseStartTime_congr previous,
      ← Object.phaseStartedAt_eq, started]
  have remembered : Table.find? t.memory.writes initial.key = some (phase, u.now) := by
    rw [process.find?_eq, writes.left, WriteHistory.record, Table.find?_insert,
      if_pos u_run.key_stored]
    · rw [Object.phase_congr previous, (writes.moves.shows writes.status).1] at current
      rw [Option.some.inj current]
    · intro v found
      obtain ⟨unstored, present, uncompleted⟩ := kept v found
      obtain ⟨v_goes, -⟩ := run.of_mem (List.mem_append_left _ found)
      obtain leaves | ⟨_, _, writes⟩ := v_goes.writes
      · apply leaves.left present uncompleted
      · cases unstored writes.stores
  have key : o.key = initial.key := by
    rw [Object.key, keeps.metadata, ← run.key_stored, Object.key]
  have last : t.memory.writes.lastIn? o.key phase = some u.now := by
    simp [WriteHistory.lastIn?, key, remembered]
  rw [Object.anchor?_of_lastIn? started' last, Instant.max_eq_left before]

/-- A status is stored in the phase that it is in no sooner than an interval after the process
stored it last.  A turn that would do so earlier stores nothing, and asks for another pass. -/
theorem writes_spaced (bounds : IsInterval interval)
    (run : Run Object.KeyKept ns name initial (later ++ u :: earlier) t.stored)
    (goes : t.Goes ns name)
    (process : OfProcess interval initial.key (t :: (later ++ u :: earlier)))
    (stored : u.StoresStatus) (previous : t.stored.status = u.after.status)
    (kept : ∀ v ∈ later,
      ¬ v.StoresStatus ∧ ¬ v.FindsMissing ns name ∧ ¬ v.CompletesDeletion ns name) :
  (t.StoresStatus → t.after.phase = t.stored.phase →
      (interval : Int) ≤ t.now.elapsedSince u.now) ∧
    ∀ o move, t.Moves ns name o move → t.stored.phase = some move.phase →
      t.now.elapsedSince u.now < interval →
        ¬ t.StoresStatus ∧
          ((∃ duration ≤ interval, ∃ memory, t.result? = some (.ok (.after duration), memory)) ∨
            t.GivenUp ns name)
  := by
  have settings := process.settings t List.mem_cons_self
  have anchored {o : Object K} {phase : Phase} (keeps : t.stored.Keeps o) :
      t.stored.phase = some phase → o.anchor? t.memory.writes phase = some u.now :=
    run.anchor?_eq bounds process stored previous kept keeps
  constructor
  · intro stores stays
    obtain leaves | ⟨o, move, writes⟩ := goes.writes
    · cases leaves.unstored stores
    have keeps := writes.moves.keeps
    rw [(writes.moves.shows writes.status).1] at stays
    have due := writes.due
    rw [settings] at due
    exact (Object.due_of_debounce? bounds (writes.moves.requeue stays.symm)
      (keeps.phase.trans stays.symm) (anchored keeps stays.symm) due).2
  · intro o move moves stays early
    have keeps := moves.keeps
    have reading := process.readings t List.mem_cons_self
    have reading' := process.readings u (by simp)
    obtain ⟨duration, short, waits⟩ := Object.exists_debounce? bounds (moves.requeue stays)
      (keeps.phase.trans stays) (anchored keeps stays) reading' reading early
    rw [← settings] at waits
    obtain ⟨unstored, ⟨memory, result⟩ | givenUp⟩ := moves.waits goes stays waits
    · exact ⟨unstored, .inl ⟨duration, short, memory, result⟩⟩
    · exact ⟨unstored, .inr givenUp⟩

namespace SpacedPayments

/-- A turn of the process that made the turn before it: the remote resource is looked at, and is
not ready. -/
def again (second : Int) (t : Turn .project) : Turn .project :=
  .taken ⟨[], t.left⟩ t.settings ⟨second, 0⟩ t.after "shop" "payments"
    (Turn.projectSurroundings t.after (Turn.reportOn "InCreation") none) ()

/-- The remote resource is looked at five seconds after its creation. -/
def early : Turn .project :=
  again 6 Payments.creating

/-- It is looked at once more, eleven seconds after its creation. -/
def late : Turn .project :=
  again 12 early

theorem goes_again (second : Int) (t : Turn .project) :
  (again second t).Goes "shop" "payments"
  := Turn.goes_taken fun _ => rfl

theorem run :
  Run Object.KeyKept "shop" "payments" Payments.creating.stored
    ([early] ++ [Payments.creating]) late.stored
  := by
  apply turned _ (goes_again ..)
  apply turned _ (Turn.goes_ofProject ..)
  apply start

theorem shown :
  early.stored.phase = some .provisioning ∧ Payments.creating.StoresStatus ∧
    ¬ early.StoresStatus ∧ late.StoresStatus ∧ late.after.phase = late.stored.phase
  := by
  decide +kernel

theorem process :
  OfProcess 10_000_000_000 Payments.creating.stored.key [late, early, Payments.creating]
  where
  settings := by
    simp [late, early, again, Turn.taken, Payments.creating, Turn.ofProject]
  readings := by
    intro t found
    simp only [List.mem_cons, List.not_mem_nil, or_false] at found
    obtain rfl | rfl | rfl := found
    · exact .ofSecond (by decide)
    · exact .ofSecond (by decide)
    · exact .ofSecond (by decide)
  readable := by
    decide +kernel
  remembers := by
    rw [List.isChain_cons_cons, List.isChain_pair]
    exact ⟨rfl, rfl⟩

theorem kept :
  ∀ v ∈ [early], ¬ v.StoresStatus ∧ ¬ v.FindsMissing "shop" "payments" ∧
    ¬ v.CompletesDeletion "shop" "payments"
  := by
  obtain ⟨provisioning, -, unstored, -⟩ := shown
  refine List.forall_mem_singleton.mpr ⟨unstored, ?_, ?_⟩
  · rintro ⟨rest, course⟩
    cases (List.cons.inj course).1
  · rintro ⟨actor, work, carried, o, memory, works, -⟩
    cases Work.leads works.works with
    | released deleting => cases provisioning.symm.trans deleting

end SpacedPayments

/-- A project that is waited for is written again after its interval, and not before. -/
theorem writes_spaced_payments :
  ¬ SpacedPayments.early.StoresStatus ∧ SpacedPayments.late.StoresStatus ∧
    (10_000_000_000 : Int) ≤
      SpacedPayments.late.now.elapsedSince Payments.creating.now
  := by
  obtain ⟨-, stored, unstored, stores, stays⟩ := SpacedPayments.shown
  have previous : SpacedPayments.late.stored.status = Payments.creating.after.status := by
    obtain ⟨-, same⟩ | ⟨stores, -⟩ := (SpacedPayments.goes_again 6 Payments.creating).status
    · apply same
    · cases unstored stores
  have spaced := writes_spaced ⟨by decide, by decide⟩ SpacedPayments.run
    (SpacedPayments.goes_again ..) SpacedPayments.process stored previous SpacedPayments.kept
  exact ⟨unstored, stores, spaced.1 stores stays⟩

end Run

end CloudOperator
