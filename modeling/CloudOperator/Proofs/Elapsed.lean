import CloudOperator.Time.Instant

/-!
# Time that passes

`Instant.since` compares the times of day, so it leaves out a leap second at the end of a
day where the next day begins earlier on the clock.  `Instant.elapsedSince` counts every leap
second that one of the two instants lies in; without one the two agree
(`Instant.elapsedSince_eq_since`).  An instant that is not before the sum of another one and a
span is at least that span after it (`Instant.le_elapsedSince`).

Instants about the years 0 to 9999 (`Instant.IsNear`) are far from the ends of the calendar, so that
no span of less than 10^12 seconds leads out of it (`Instant.IsNear.exists_add?`).
-/

namespace CloudOperator

namespace Instant

variable {t u v : Instant} {span : Int}

/-- The span from `u` to `t` in nanoseconds.  A leap second that one of them lies in is a
second of its own. -/
def elapsedSince (t u : Instant) : Int :=
  let leap : Int :=
    if u.second < t.second ∧ u.inLeapSecond then 1
    else if t.second < u.second ∧ t.inLeapSecond then -1
    else 0
  (t.second - u.second + leap) * nanosPerSecond + ((t.nano : Int) - u.nano)

theorem elapsedSince_eq_since (ordinary : ¬ t.inLeapSecond) (ordinary' : ¬ u.inLeapSecond) :
  t.elapsedSince u = t.since u
  := by
  simp [elapsedSince, since, ordinary, ordinary']

/-! ## Order -/

theorem lt_iff :
  t < u ↔ t.second < u.second ∨ t.second = u.second ∧ t.nano < u.nano
  := Iff.rfl

theorem le_iff :
  t ≤ u ↔ t.second < u.second ∨ t.second = u.second ∧ t.nano ≤ u.nano
  := by
  change ¬ u < t ↔ _
  rw [lt_iff]
  omega

theorem le_refl (t : Instant) :
  t ≤ t
  := le_iff.mpr (.inr ⟨rfl, Nat.le_refl _⟩)

theorem le_trans (first : t ≤ u) (second : u ≤ v) :
  t ≤ v
  := by
  rw [le_iff] at *
  omega

theorem max_eq_left (h : u ≤ t) :
  max t u = t
  := by
  change (if t ≤ u then u else t) = t
  split
  · rw [le_iff] at *
    obtain ⟨second, nano⟩ := t
    obtain ⟨second', nano'⟩ := u
    simp only [mk.injEq] at *
    omega
  · rfl

theorem le_max_right (t u : Instant) :
  u ≤ max t u
  := by
  change u ≤ if t ≤ u then u else t
  split
  · apply le_refl
  · rw [le_iff] at *
    omega

theorem startOfSecond_le (t : Instant) :
  t.startOfSecond ≤ t
  := by
  rw [le_iff, startOfSecond]
  right
  refine ⟨rfl, ?_⟩
  dsimp only
  split
  · assumption
  · apply Nat.zero_le

/-! ## Sums -/

/-- The sum with a span forwards, by the seconds and the nanoseconds that it has. -/
theorem shift_cases (u : Instant) (forwards : 0 ≤ span) :
  (¬ u.inLeapSecond ∧
      u.shift span = carry (u.second + span / 1_000_000_000) (u.nano + span % 1_000_000_000)) ∨
    (u.inLeapSecond ∧ span < 1_000_000_000 ∧ (span = 0 ∨ u.nano + span < 2_000_000_000) ∧
      u.shift span = ⟨u.second, (u.nano + span).toNat⟩) ∨
    (u.inLeapSecond ∧ (1_000_000_000 ≤ span ∨ 2_000_000_000 ≤ u.nano + span) ∧
      u.shift span =
        carry (u.second + span / 1_000_000_000) (u.nano - 1_000_000_000 + span % 1_000_000_000))
  := by
  have seconds := Int.tdiv_eq_ediv_of_nonneg (b := nanosPerSecond) forwards
  have nanos := Int.tmod_eq_emod_of_nonneg (b := nanosPerSecond) forwards
  simp only [shift, staysInLeapSecond, seconds, nanos, nanosPerSecond]
  by_cases leap : u.inLeapSecond
  · right
    rw [if_neg (not_not_intro leap)]
    split
    · obtain ⟨-, none, fits⟩ := ‹_ ∧ _ ∧ _›
      have short : span % 1_000_000_000 = span := by omega
      rw [short] at fits ⊢
      exact .inl ⟨leap, by omega, by omega, rfl⟩
    · have leaves (none : span / 1_000_000_000 = 0) := mt (And.intro leap ∘ And.intro none) ‹_›
      have positive : ¬ span / 1_000_000_000 < 0 := by omega
      rw [if_neg positive, Int.add_zero]
      exact .inr ⟨leap, by omega, rfl⟩
  · rw [if_pos leap]
    exact .inl ⟨leap, rfl⟩

theorem second_carry (second nano : Int) :
  (carry second nano).second = second + nano / 1_000_000_000
  := rfl

theorem nano_carry (second nano : Int) :
  ((carry second nano).nano : Int) = nano % 1_000_000_000
  := Int.toNat_of_nonneg (Int.emod_nonneg nano (by decide))

theorem carry_of_lt (second : Int) {n : Nat} (below : n < 1_000_000_000) :
  carry second n = ⟨second, n⟩
  := by
  simp only [carry, nanosPerSecond, Instant.mk.injEq]
  omega

/-- A sum does not lead into a leap second. -/
theorem not_inLeapSecond_shift (ordinary : ¬ u.inLeapSecond) (span : Int) :
  ¬ (u.shift span).inLeapSecond
  := by
  have nano := nano_carry (u.second + span.tdiv nanosPerSecond)
    (u.nano + span.tmod nanosPerSecond)
  rw [shift, if_pos ordinary, inLeapSecond]
  omega

theorem add?_eq_some_iff :
  u.add? span = some t ↔ t = u.shift span ∧ t.IsInCalendar
  := by
  rw [add?]
  constructor
  · intro added
    split at added
    · obtain rfl := Option.some.inj added
      exact ⟨rfl, ‹_›⟩
    · cases added
  · rintro ⟨rfl, inCalendar⟩
    exact if_pos inCalendar

/-- A sum with a span forwards is not before the instant. -/
theorem le_shift (u : Instant) (forwards : 0 ≤ span) :
  u ≤ u.shift span
  := by
  obtain ⟨ordinary, same⟩ | ⟨leap, -, -, same⟩ | ⟨leap, long, same⟩ := u.shift_cases forwards
  · rw [same, le_iff, second_carry]
    have nano := nano_carry (u.second + span / 1_000_000_000) (u.nano + span % 1_000_000_000)
    rw [inLeapSecond] at ordinary
    omega
  · rw [same, le_iff]
    exact .inr ⟨rfl, by dsimp only; omega⟩
  · rw [same, le_iff, second_carry]
    rw [inLeapSecond] at leap
    omega

/-- The span to a later second. -/
theorem elapsedSince_of_le (later : u.second ≤ t.second) :
  t.elapsedSince u =
    (t.second - u.second) * 1_000_000_000 + ((t.nano : Int) - u.nano)
      + if u.second < t.second ∧ u.inLeapSecond then 1_000_000_000 else 0
  := by
  have earlier : ¬ (t.second < u.second ∧ t.inLeapSecond) := by omega
  simp only [elapsedSince, nanosPerSecond]
  rw [if_neg earlier]
  split
  · omega
  · omega

/-- A sum with a span forwards is not more than two seconds later than the seconds of the
span say. -/
theorem second_shift (u : Instant) (forwards : 0 ≤ span) (nano : u.nano < 2_000_000_000) :
  (u.shift span).second ≤ u.second + span / 1_000_000_000 + 2
  := by
  obtain ⟨-, same⟩ | ⟨-, -, -, same⟩ | ⟨-, -, same⟩ := u.shift_cases forwards
  · rw [same, second_carry]
    omega
  · rw [same]
    dsimp only
    omega
  · rw [same, second_carry]
    omega

/-- A sum with a span forwards is not earlier than the seconds of the span say. -/
theorem le_second_shift (u : Instant) (forwards : 0 ≤ span) :
  u.second + span / 1_000_000_000 ≤ (u.shift span).second
  := by
  obtain ⟨-, same⟩ | ⟨-, short, -, same⟩ | ⟨leap, -, same⟩ := u.shift_cases forwards
  · rw [same, second_carry]
    omega
  · rw [same]
    dsimp only
    omega
  · rw [inLeapSecond] at leap
    rw [same, second_carry]
    omega

/-- A sum with whole seconds keeps the place in the second, and leaves a leap second unless nothing
is added. -/
theorem shift_seconds (u : Instant) (seconds : Int) (nano : u.nano < 2_000_000_000) :
  u.shift (seconds * nanosPerSecond) =
    if u.inLeapSecond ∧ seconds ≠ 0 then
      ⟨u.second + seconds + (if seconds < 0 then 1 else 0), u.nano - 1_000_000_000⟩
    else ⟨u.second + seconds, u.nano⟩
  := by
  have whole : (seconds * nanosPerSecond).tdiv nanosPerSecond = seconds :=
    Int.mul_tdiv_cancel seconds (by decide)
  have rest : (seconds * nanosPerSecond).tmod nanosPerSecond = 0 := Int.mul_tmod_left ..
  rw [shift, whole, rest]
  by_cases leap : u.inLeapSecond
  · rw [if_neg (not_not_intro leap)]
    by_cases none : seconds = 0
    · rw [if_pos ⟨leap, none, .inl (Int.le_refl 0)⟩, if_neg fun moves => moves.2 none, none]
      simp only [Int.add_zero, Int.toNat_natCast]
    · have moves : u.inLeapSecond ∧ seconds ≠ 0 := ⟨leap, none⟩
      rw [if_neg fun stays => none stays.2.1, if_pos moves]
      have nanos : (u.nano : Int) - nanosPerSecond + 0 = (u.nano - 1_000_000_000 : Nat) := by
        rw [inLeapSecond] at leap
        rw [nanosPerSecond]
        omega
      rw [nanos, carry_of_lt _ (by omega)]
  · rw [if_pos leap, if_neg fun moves => leap moves.1, Int.add_zero,
      carry_of_lt _ (Nat.not_le.mp leap)]

/-- What is not before the sum of an instant and a span is at least that span after it. -/
theorem le_elapsedSince (forwards : 0 < span) (due : ¬ t < u.shift span) :
  span ≤ t.elapsedSince u
  := by
  rw [lt_iff] at due
  obtain ⟨ordinary, same⟩ | ⟨leap, short, fits, same⟩ | ⟨leap, long, same⟩ :=
    u.shift_cases (Int.le_of_lt forwards)
  · have nano := nano_carry (u.second + span / 1_000_000_000) (u.nano + span % 1_000_000_000)
    rw [same, second_carry] at due
    have later : u.second ≤ t.second := by
      omega
    rw [elapsedSince_of_le later, if_neg (fun leap => ordinary leap.2)]
    omega
  · rw [same] at due
    dsimp only at due
    have later : u.second ≤ t.second := by
      omega
    rw [elapsedSince_of_le later]
    split
    · omega
    · have same : ¬ u.second < t.second := fun less => ‹¬ (_ ∧ _)› ⟨less, leap⟩
      omega
  · have nano := nano_carry (u.second + span / 1_000_000_000)
      (u.nano - 1_000_000_000 + span % 1_000_000_000)
    rw [same, second_carry] at due
    rw [inLeapSecond] at leap
    have later : u.second < t.second := by
      omega
    rw [elapsedSince_of_le (Int.le_of_lt later), if_pos ⟨later, leap⟩]
    omega

/-- What is not before an instant is no span backwards after it. -/
theorem elapsedSince_nonneg (later : u ≤ t) (nano : u.nano < 2_000_000_000) :
  0 ≤ t.elapsedSince u
  := by
  rw [le_iff] at later
  rw [elapsedSince_of_le (by omega)]
  split
  · omega
  · have ordinary : u.second < t.second → u.nano < 1_000_000_000 := by
      intro less
      exact Nat.not_le.mp fun leap => ‹¬ (_ ∧ _)› ⟨less, leap⟩
    omega

theorem inLeapSecond_startOfSecond (u : Instant) :
  u.startOfSecond.inLeapSecond ↔ u.inLeapSecond
  := by
  change 1_000_000_000 ≤ (if u.inLeapSecond then 1_000_000_000 else 0) ↔ u.inLeapSecond
  split
  · exact iff_of_true (Nat.le_refl _) ‹_›
  · exact iff_of_false (by decide) ‹_›

/-- Less than a second is cut off at the beginning of the second. -/
theorem elapsedSince_startOfSecond_lt (t : Instant) (nano : u.nano < 2_000_000_000) :
  t.elapsedSince u.startOfSecond < t.elapsedSince u + 1_000_000_000
  := by
  have within : (u.nano : Int) < u.startOfSecond.nano + 1_000_000_000 := by
    rw [startOfSecond]
    dsimp only
    split
    · omega
    · rw [inLeapSecond] at *
      omega
  have same : u.startOfSecond.second = u.second := rfl
  simp only [elapsedSince, inLeapSecond_startOfSecond, same]
  omega

/-- The times of day make no more of a span than what passed. -/
theorem since_le_elapsedSince (later : u.second ≤ t.second) :
  t.since u ≤ t.elapsedSince u
  := by
  rw [elapsedSince_of_le later]
  simp only [since, nanosPerSecond]
  split
  · obtain ⟨less, leap⟩ := ‹_ ∧ _›
    have other : u.second ≠ t.second := by
      intro same
      rw [clock, clock, same] at less
      cases Int.lt_irrefl _ less
    rw [if_pos ⟨by omega, leap⟩]
    omega
  · split
    · split
      · omega
      · omega
    · split
      · omega
      · omega

/-! ## Instants about the years 0 to 9999 -/

/-- An instant that lies in the years 0 to 9999, or not far from them. -/
structure IsNear (t : Instant) : Prop where
  second : -62_300_000_000 ≤ t.second ∧ t.second ≤ 253_500_000_000
  nano : t.nano < 2_000_000_000

theorem IsNear.max (h : t.IsNear) (h' : u.IsNear) :
  (max t u).IsNear
  := by
  change (if t ≤ u then u else t).IsNear
  split
  · exact h'
  · exact h

/-- The span between two such instants is less than 4 * 10^11 seconds. -/
theorem IsNear.since_lt (h : t.IsNear) (h' : u.IsNear) :
  t.since u < 400_000_000_000 * 1_000_000_000
  := by
  have second := h.second
  have second' := h'.second
  have nano := h.nano
  have nano' := h'.nano
  dsimp only [since, nanosPerSecond]
  split
  · omega
  · split
    · omega
    · omega

/-- A span of at most 10^12 seconds does not lead out of the calendar. -/
theorem IsNear.exists_add? (h : t.IsNear) (forwards : 0 ≤ span)
    (short : span ≤ 1_000_000_000_000 * 1_000_000_000) :
  ∃ later, t.add? span = some later
  := by
  have second := h.second
  have later := le_iff.mp (t.le_shift forwards)
  have bounded := t.second_shift forwards h.nano
  refine ⟨t.shift span, if_pos ⟨?_, ?_⟩⟩
  · dsimp only [firstSecond]
    omega
  · dsimp only [lastSecond]
    omega

end Instant

end CloudOperator
