import CloudOperator.Proofs.NextWrite
import CloudOperator.Proofs.Timestamp
import CloudOperator.Reconcile.Decision

/-!
# When a move may be written

A move that stays in its phase is written once the time of the next write is reached, and then
a whole interval has passed since the anchor (`Object.due_of_debounce?`).  Before that it waits,
for an interval at most (`Object.exists_debounce?`): from an instant about the years 0 to 9999 the
time of the next write is in the calendar if the interval is not longer than 10^12 seconds
(`exists_nextAllowed?`).
-/

namespace CloudOperator

/-- An interval between a millisecond and 10^12 seconds. -/
structure IsInterval (interval : Nat) : Prop where
  least : 1_000_000 ≤ interval
  most : interval ≤ 1_000_000_000_000 * 1_000_000_000

theorem IsInterval.span {interval : Nat} (h : IsInterval interval) :
  spanOfDuration interval = interval
  := by
  have most := h.most
  rw [spanOfDuration]
  apply Int.min_eq_left
  dsimp only [longestSpan, nanosPerMilli]
  omega

variable {anchor now allowed : Instant} {interval : Nat}

/-- The time of the next write is an interval after the anchor; or an interval has passed, and
it is a span after the anchor that has passed, too. -/
theorem nextAllowed?_cases (anchor now : Instant) (h : IsInterval interval) :
  nextAllowed? anchor interval now = anchor.add? interval ∨
    interval ≤ now.since anchor ∧ ∃ span, 0 ≤ span ∧ span ≤ now.since anchor ∧
      nextAllowed? anchor interval now = anchor.add? span
  := by
  have least : 1_000_000 ≤ (interval : Int) := by
    have least := h.least
    omega
  by_cases early : now.since anchor < interval
  · exact .inl (nextAllowed?_of_lt least early)
  · have passed : (interval : Int) ≤ now.since anchor := by omega
    obtain ⟨first, last, -⟩ := latestBoundary_spec least passed
    rw [wholeMillis_of_nonneg (by omega)] at first last
    have next := nextAllowed?_of_le least passed
    dsimp only [nanosPerMilli] at next
    exact .inr ⟨passed, _, by omega, by omega, next⟩

/-- A move that does not have to wait any more comes an interval after the anchor. -/
theorem due_of_nextAllowed? (h : IsInterval interval)
    (next : nextAllowed? anchor interval now = some allowed) (due : ¬ now < allowed) :
  anchor ≤ now ∧ (interval : Int) ≤ now.elapsedSince anchor
  := by
  have least := h.least
  obtain same | ⟨passed, span, forwards, -, same⟩ := nextAllowed?_cases anchor now h
  · rw [same] at next
    rw [(Instant.add?_eq_some_iff.mp next).1] at due
    exact ⟨Instant.le_trans (anchor.le_shift (by omega)) due,
      Instant.le_elapsedSince (by omega) due⟩
  · rw [same] at next
    rw [(Instant.add?_eq_some_iff.mp next).1] at due
    have later := Instant.le_trans (anchor.le_shift forwards) due
    refine ⟨later, Int.le_trans passed (Instant.since_le_elapsedSince ?_)⟩
    rw [Instant.le_iff] at later
    omega

/-- The time of the next write is in the calendar, also for an interval of less than a
millisecond. -/
theorem exists_nextAllowed? (most : interval ≤ 1_000_000_000_000 * 1_000_000_000)
    (near : anchor.IsNear) (near' : now.IsNear) :
  ∃ allowed, nextAllowed? anchor (spanOfDuration interval) now = some allowed
  := by
  by_cases least : 1_000_000 ≤ interval
  · have isInterval : IsInterval interval := ⟨least, most⟩
    rw [isInterval.span]
    obtain same | ⟨-, span, forwards, short, same⟩ := nextAllowed?_cases anchor now isInterval
    · rw [same]
      exact near.exists_add? (by omega) (by omega)
    · rw [same]
      have bounded := near'.since_lt near
      exact near.exists_add? forwards (by omega)
  · refine ⟨now, if_pos ?_⟩
    simp only [spanOfDuration, longestSpan, nanosPerMilli, wholeMillis]
    rw [Int.min_eq_left (by omega), Int.tdiv_eq_ediv_of_nonneg (by omega)]
    omega

theorem remaining_le (later now : Instant) (interval : Nat) :
  remaining later now interval ≤ interval
  := by
  dsimp only [remaining]
  split
  · apply Nat.le_refl
  · apply Nat.min_le_right

namespace Object

variable {K : Kind} {o : Object K} {history : WriteHistory} {move : Move} {start : Instant}

/-- A move that asks for no other pass is made at once. -/
theorem debounce?_of_settled (settled : move.requeue = false) :
  o.debounce? history interval move now = some none
  := by
  rw [debounce?, settled]
  exact if_neg (fun requeues => Bool.false_ne_true requeues.1)

/-- So is one that leaves the phase. -/
theorem debounce?_of_leaving (leaving : o.phase ≠ some move.phase) :
  o.debounce? history interval move now = some none
  := by
  rw [debounce?]
  exact if_neg (fun stays => leaving stays.2)

theorem anchor?_of_lastIn? {phase : Phase} {last : Instant}
    (started : o.phaseStartedAt = some start) (written : history.lastIn? o.key phase = some last) :
  o.anchor? history phase = some (max last start)
  := by
  rw [phaseStartedAt] at started
  rw [anchor?, started, written]
  rfl

/-- The writes of a phase are counted from its start or later. -/
theorem exists_anchor? (history : WriteHistory) (phase : Phase)
    (started : o.phaseStartedAt = some start) :
  ∃ anchor, o.anchor? history phase = some anchor ∧ start ≤ anchor
  := by
  rw [phaseStartedAt] at started
  rw [anchor?, started, Option.map_some]
  refine ⟨_, rfl, ?_⟩
  split
  · apply Instant.le_max_right
  · apply Instant.le_refl

theorem debounce?_of_anchor? (requeues : move.requeue) (stays : o.phase = some move.phase)
    (anchored : o.anchor? history move.phase = some anchor) (interval : Nat) :
  o.debounce? history interval move now =
    (nextAllowed? anchor (spanOfDuration interval) now).map fun allowed =>
      if now < allowed then some (remaining allowed now interval) else none
  := by
  rw [debounce?, if_pos ⟨requeues, stays⟩, anchored]

/-- A move that stays in its phase and is due comes an interval after the anchor. -/
theorem due_of_debounce? (h : IsInterval interval) (requeues : move.requeue)
    (stays : o.phase = some move.phase) (anchored : o.anchor? history move.phase = some anchor)
    (due : o.debounce? history interval move now = some none) :
  anchor ≤ now ∧ (interval : Int) ≤ now.elapsedSince anchor
  := by
  rw [debounce?_of_anchor? requeues stays anchored, h.span] at due
  obtain ⟨allowed, next, reached⟩ := Option.map_eq_some_iff.mp due
  split at reached
  · cases reached
  · apply due_of_nextAllowed? h next ‹_›

/-- A move that stays in its phase waits until an interval has passed since the anchor. -/
theorem exists_debounce? (h : IsInterval interval) (requeues : move.requeue)
    (stays : o.phase = some move.phase) (anchored : o.anchor? history move.phase = some anchor)
    (reading : anchor.IsReading) (reading' : now.IsReading)
    (early : now.elapsedSince anchor < interval) :
  ∃ duration ≤ interval, o.debounce? history interval move now = some (some duration)
  := by
  obtain ⟨allowed, next⟩ := exists_nextAllowed? h.most reading.isNear reading'.isNear
  have waits : now < allowed := by
    rw [h.span] at next
    apply Classical.byContradiction
    intro reached
    have passed := (due_of_nextAllowed? h next reached).2
    omega
  refine ⟨remaining allowed now interval, remaining_le .., ?_⟩
  rw [debounce?_of_anchor? requeues stays anchored, next, Option.map_some, if_pos waits]

end Object

end CloudOperator

