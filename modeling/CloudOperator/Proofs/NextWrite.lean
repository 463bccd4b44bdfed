import CloudOperator.Proofs.Elapsed
import CloudOperator.Reconcile.Debounce

/-!
# The time of the next write

Without leap seconds, instants are numbers of nanoseconds (`Instant.total`): they are compared as
such, a span between two is a difference, and a sum with a span is a sum.  So the time of the next
write is told by division.  It lies ahead just if less than an interval has passed since the anchor,
and then it is an interval after the anchor; else it is the latest time until now that is a number
of intervals after the anchor, each cut to milliseconds (`nextAllowed?_spec`).

The milliseconds are counted in signed words of 64 bits.  They fit, and so does the product of the
number of intervals and their length, which is not more than what has passed
(`nextAllowedInWords?_eq`).
-/

namespace CloudOperator

namespace Instant

variable {t u : Instant}

/-- The nanoseconds since the beginning of 1970, leap seconds left out. -/
def total (t : Instant) : Int :=
  t.second * 1_000_000_000 + t.nano

theorem lt_iff_total (ordinary : ¬ t.inLeapSecond) (ordinary' : ¬ u.inLeapSecond) :
  t < u ↔ t.total < u.total
  := by
  rw [inLeapSecond] at ordinary ordinary'
  rw [lt_iff, total, total]
  omega

theorem since_eq_total (ordinary : ¬ t.inLeapSecond) (ordinary' : ¬ u.inLeapSecond) :
  t.since u = t.total - u.total
  := by
  rw [since, if_neg fun leap => ordinary' leap.2, if_neg fun leap => ordinary leap.2, total, total]
  dsimp only [nanosPerSecond]
  omega

theorem total_shift (ordinary : ¬ t.inLeapSecond) (span : Int) :
  (t.shift span).total = t.total + span
  := by
  have parts := Int.tdiv_mul_add_tmod span nanosPerSecond
  have second := second_carry (t.second + span.tdiv nanosPerSecond)
    (t.nano + span.tmod nanosPerSecond)
  have nano := nano_carry (t.second + span.tdiv nanosPerSecond)
    (t.nano + span.tmod nanosPerSecond)
  rw [shift, if_pos ordinary, total, second, nano, total]
  dsimp only [nanosPerSecond] at *
  omega

end Instant

variable {anchor now next : Instant} {interval elapsed : Int}

/-! ## Counting intervals -/

theorem wholeMillis_of_nonneg {n : Int} (forwards : 0 ≤ n) :
  wholeMillis n = n / 1_000_000
  := Int.tdiv_eq_ediv_of_nonneg forwards

/-- The span to the latest boundary: as many intervals as have passed, all in milliseconds. -/
def latestBoundary (elapsed interval : Int) : Int :=
  (wholeMillis elapsed).tdiv (wholeMillis interval) * wholeMillis interval

/-- The latest boundary is at least one interval after the anchor, not ahead, and less than an
interval ago. -/
theorem latestBoundary_spec (least : 1_000_000 ≤ interval) (passed : interval ≤ elapsed) :
  wholeMillis interval ≤ latestBoundary elapsed interval ∧
    latestBoundary elapsed interval ≤ wholeMillis elapsed ∧
    wholeMillis elapsed < latestBoundary elapsed interval + wholeMillis interval
  := by
  have forwards : 0 ≤ interval := by omega
  have forwards' : 0 ≤ elapsed := by omega
  rw [latestBoundary, wholeMillis_of_nonneg forwards, wholeMillis_of_nonneg forwards',
    Int.tdiv_eq_ediv_of_nonneg (by omega)]
  have positive : 0 < interval / 1_000_000 := by omega
  have reaches : interval / 1_000_000 ≤ elapsed / 1_000_000 := by omega
  generalize interval / 1_000_000 = unit at *
  generalize elapsed / 1_000_000 = millis at *
  refine ⟨?_, Int.ediv_mul_le millis (Int.ne_of_gt positive), ?_⟩
  · have once : 1 ≤ millis / unit := (Int.le_ediv_iff_mul_le positive).mpr (by omega)
    have scaled := Int.mul_le_mul_of_nonneg_right once (Int.le_of_lt positive)
    rwa [Int.one_mul] at scaled
  · have next := Int.lt_ediv_add_one_mul_self millis positive
    rwa [Int.add_mul, Int.one_mul] at next

theorem nextAllowed?_of_lt (least : 1_000_000 ≤ interval)
    (early : now.since anchor < interval) :
  nextAllowed? anchor interval now = anchor.add? interval
  := by
  have millis := wholeMillis_of_nonneg (n := interval) (by omega)
  dsimp only [nextAllowed?]
  rw [if_neg (by omega), if_pos early]

theorem nextAllowed?_of_le (least : 1_000_000 ≤ interval)
    (passed : interval ≤ now.since anchor) :
  nextAllowed? anchor interval now =
    anchor.add? (latestBoundary (now.since anchor) interval * nanosPerMilli)
  := by
  have millis := wholeMillis_of_nonneg (n := interval) (by omega)
  dsimp only [nextAllowed?]
  rw [if_neg (by omega), if_neg (by omega), latestBoundary]

/-! ## Counting in words -/

/-- A number as a signed word of 64 bits, unless it is too large for one. -/
def word? (n : Int) : Option Int64 :=
  let word := Int64.ofInt n
  if word.toInt = n then some word else none

/-- The product of two words, unless it is too large for one. -/
def wordProduct? (a b : Int64) : Option Int64 :=
  if (a * b).toInt = a.toInt * b.toInt then some (a * b) else none

/-- The time of the next write, its milliseconds counted in signed words of 64 bits.  There is no
answer if a word is too small. -/
def nextAllowedInWords? (anchor : Instant) (interval : Int) (now : Instant) : Option Instant := do
  let intervalMillis ← word? (wholeMillis interval)
  let elapsed := now.since anchor
  if intervalMillis ≤ 0 then return now
  else if elapsed < interval then anchor.add? interval
  else
    let elapsedMillis ← word? (wholeMillis elapsed)
    let millis ← wordProduct? (elapsedMillis / intervalMillis) intervalMillis
    anchor.add? (millis.toInt * nanosPerMilli)

theorem exists_word? {n : Int} (forwards : 0 ≤ n) (short : n < 9_223_372_036_854_775_808) :
  ∃ word, word? n = some word ∧ word.toInt = n
  := by
  have same : (Int64.ofInt n).toInt = n := Int64.toInt_ofInt_of_le (by omega) (by omega)
  exact ⟨Int64.ofInt n, if_pos same, same⟩

/-- The milliseconds of what has passed are not fewer than those that are counted, so these fit. -/
theorem exists_wordProduct? (least : 1_000_000 ≤ interval) (passed : interval ≤ elapsed)
    {elapsedMillis intervalMillis : Int64} (elapsed_eq : elapsedMillis.toInt = wholeMillis elapsed)
    (interval_eq : intervalMillis.toInt = wholeMillis interval) :
  ∃ millis, wordProduct? (elapsedMillis / intervalMillis) intervalMillis = some millis ∧
    millis.toInt = latestBoundary elapsed interval
  := by
  obtain ⟨first, last, -⟩ := latestBoundary_spec least passed
  have unit := wholeMillis_of_nonneg (n := interval) (by omega)
  -- Division overflows in one case only: the least word divided by -1.
  have positive : intervalMillis ≠ -1 := by
    rintro rfl
    have negative : (-1 : Int64).toInt = -1 := by decide
    omega
  have count := Int64.toInt_div_of_ne_right elapsedMillis intervalMillis positive
  have exact : (elapsedMillis / intervalMillis).toInt * intervalMillis.toInt
      = latestBoundary elapsed interval := by
    rw [count, elapsed_eq, interval_eq, latestBoundary]
  have fits : (elapsedMillis / intervalMillis * intervalMillis).toInt
      = latestBoundary elapsed interval := by
    have most := elapsedMillis.toInt_lt
    rw [Int64.toInt_mul, exact]
    apply Int.bmod_eq_of_le_mul_two
    · omega
    · omega
  exact ⟨_, if_pos (fits.trans exact.symm), fits⟩

/-- The milliseconds between two instants of the calendar fit into a word. -/
theorem wholeMillis_since_lt (ordinary : ¬ anchor.inLeapSecond) (ordinary' : ¬ now.inLeapSecond)
    (inCalendar : anchor.IsInCalendar) (inCalendar' : now.IsInCalendar)
    (forwards : 0 ≤ now.since anchor) :
  wholeMillis (now.since anchor) < 9_223_372_036_854_775_808
  := by
  rw [wholeMillis_of_nonneg forwards, Instant.since_eq_total ordinary' ordinary, Instant.total,
    Instant.total]
  rw [Instant.inLeapSecond] at ordinary ordinary'
  rw [Instant.IsInCalendar] at inCalendar inCalendar'
  dsimp only [Instant.firstSecond, Instant.lastSecond] at inCalendar inCalendar'
  omega

/-- Between two instants of the calendar no word is too small. -/
theorem nextAllowedInWords?_eq (ordinary : ¬ anchor.inLeapSecond) (ordinary' : ¬ now.inLeapSecond)
    (inCalendar : anchor.IsInCalendar) (inCalendar' : now.IsInCalendar)
    (least : 1_000_000 ≤ interval) (short : interval ≤ longestSpan) :
  nextAllowedInWords? anchor interval now = nextAllowed? anchor interval now
  := by
  have unit := wholeMillis_of_nonneg (n := interval) (by omega)
  obtain ⟨intervalMillis, inWord, interval_eq⟩ := exists_word? (n := wholeMillis interval)
    (by omega) (by dsimp only [longestSpan, nanosPerMilli] at short; omega)
  have positive : ¬ intervalMillis ≤ 0 := by
    rw [Int64.le_iff_toInt_le, interval_eq, Int64.toInt_zero]
    omega
  rw [nextAllowedInWords?, inWord, Option.bind_eq_bind, Option.bind_some]
  dsimp only
  rw [if_neg positive]
  by_cases early : now.since anchor < interval
  · rw [if_pos early, nextAllowed?_of_lt least early]
  · have passed : interval ≤ now.since anchor := by omega
    have whole := wholeMillis_of_nonneg (n := now.since anchor) (by omega)
    have fits := wholeMillis_since_lt ordinary ordinary' inCalendar inCalendar' (by omega)
    obtain ⟨elapsedMillis, inWord', elapsed_eq⟩ := exists_word? (by omega) fits
    obtain ⟨millis, counted, same⟩ := exists_wordProduct? least passed elapsed_eq interval_eq
    rw [if_neg early, inWord', Option.bind_some, counted, Option.bind_some, same,
      nextAllowed?_of_le least passed]

/-! ## The time that is told -/

/-- A time is the next one at which a write may follow that of the time `anchor`, as told at the
time `now`. -/
structure IsNextAllowed (anchor : Instant) (interval : Int) (now next : Instant) : Prop where
  /-- It lies ahead until an interval has passed. -/
  ahead_iff : now < next ↔ now.since anchor < interval
  /-- Until then it is an interval after the anchor. -/
  ahead : now < next → anchor.add? interval = some next
  /-- From then on it is reached, and less than an interval ago. -/
  reached : ¬ now < next → anchor < next ∧ next ≤ now ∧ now.since next < interval
  /-- It is a number of intervals after the anchor, each cut to milliseconds, and no later one is
  reached. -/
  latest : ¬ now < next → now.since next < wholeMillis interval * nanosPerMilli ∧
    ∃ count : Int, next.since anchor = count * (wholeMillis interval * nanosPerMilli)

theorem isNextAllowed_ahead (ordinary : ¬ anchor.inLeapSecond) (ordinary' : ¬ now.inLeapSecond)
    (early : now.since anchor < interval) (added : anchor.add? interval = some next) :
  IsNextAllowed anchor interval now next
  := by
  obtain ⟨rfl, -⟩ := Instant.add?_eq_some_iff.mp added
  have ahead : now < anchor.shift interval := by
    rw [Instant.lt_iff_total ordinary' (Instant.not_inLeapSecond_shift ordinary interval),
      Instant.total_shift ordinary]
    rw [Instant.since_eq_total ordinary' ordinary] at early
    omega
  exact ⟨iff_of_true ahead early, fun _ => added, fun reached => absurd ahead reached,
    fun reached => absurd ahead reached⟩

theorem isNextAllowed_reached (ordinary : ¬ anchor.inLeapSecond) (ordinary' : ¬ now.inLeapSecond)
    (least : 1_000_000 ≤ interval) (passed : interval ≤ now.since anchor) :
  IsNextAllowed anchor interval now
    (anchor.shift (latestBoundary (now.since anchor) interval * nanosPerMilli))
  := by
  have forwards : 0 ≤ now.since anchor := by omega
  obtain ⟨first, last, recent⟩ := latestBoundary_spec least passed
  have unit := wholeMillis_of_nonneg (n := interval) (by omega)
  have millis := wholeMillis_of_nonneg forwards
  have whole : latestBoundary (now.since anchor) interval =
      (wholeMillis (now.since anchor)).tdiv (wholeMillis interval) * wholeMillis interval := rfl
  generalize latestBoundary (now.since anchor) interval = boundary at *
  have ordinary'' := Instant.not_inLeapSecond_shift ordinary (boundary * nanosPerMilli)
  have total := Instant.total_shift ordinary (boundary * nanosPerMilli)
  have elapsed := Instant.since_eq_total ordinary' ordinary
  have since := Instant.since_eq_total ordinary' ordinary''
  have after := Instant.since_eq_total ordinary'' ordinary
  dsimp only [nanosPerMilli] at *
  have reached : ¬ now < anchor.shift (boundary * 1_000_000) := by
    rw [Instant.lt_iff_total ordinary' ordinary'']
    omega
  refine ⟨iff_of_false reached (by omega), fun ahead => absurd ahead reached, fun _ => ?_,
    fun _ => ?_⟩
  · refine ⟨?_, reached, by omega⟩
    rw [Instant.lt_iff_total ordinary ordinary'']
    omega
  · have span : (anchor.shift (boundary * 1_000_000)).since anchor = boundary * 1_000_000 := by
      omega
    dsimp only [nanosPerMilli]
    refine ⟨by omega, (wholeMillis (now.since anchor)).tdiv (wholeMillis interval), ?_⟩
    rw [span, whole, Int.mul_assoc]

/-- Between times of the calendar lies nothing else. -/
theorem Instant.isInCalendar_of_between {t u v : Instant} (first : t.IsInCalendar)
    (last : u.IsInCalendar) (later : t < v) (earlier : v ≤ u) :
  v.IsInCalendar
  := by
  rw [lt_iff] at later
  rw [le_iff] at earlier
  rw [IsInCalendar] at *
  omega

/-- For every anchor and every interval of at least a millisecond there is a time of the next write,
and no word overflows where it is told. -/
theorem nextAllowed?_spec (ordinary : ¬ anchor.inLeapSecond) (ordinary' : ¬ now.inLeapSecond)
    (inCalendar : anchor.IsInCalendar) (inCalendar' : now.IsInCalendar)
    (least : 1_000_000 ≤ interval) (ends : (anchor.add? interval).isSome) :
  ∃ next, nextAllowed? anchor interval now = some next ∧
    nextAllowedInWords? anchor interval now = some next ∧
    IsNextAllowed anchor interval now next
  := by
  obtain ⟨last, added⟩ := Option.isSome_iff_exists.mp ends
  have short : interval ≤ longestSpan := by
    obtain ⟨rfl, -, before⟩ := Instant.add?_eq_some_iff.mp added
    have later : anchor.second + interval / 1_000_000_000 ≤ _ :=
      anchor.le_second_shift (by omega)
    have early := inCalendar.1
    dsimp only [Instant.firstSecond, Instant.lastSecond, longestSpan, nanosPerMilli] at *
    omega
  rw [nextAllowedInWords?_eq ordinary ordinary' inCalendar inCalendar' least short]
  by_cases early : now.since anchor < interval
  · rw [nextAllowed?_of_lt least early]
    exact ⟨last, added, added, isNextAllowed_ahead ordinary ordinary' early added⟩
  · have passed : interval ≤ now.since anchor := by omega
    have next := isNextAllowed_reached ordinary ordinary' least passed
    obtain ⟨later, earlier, -⟩ := next.reached (mt next.ahead_iff.mp early)
    have reached := Instant.add?_eq_some_iff.mpr
      ⟨rfl, Instant.isInCalendar_of_between inCalendar inCalendar' later earlier⟩
    rw [nextAllowed?_of_le least passed]
    exact ⟨_, reached, reached, next⟩

/-- An interval of twenty seconds and a fraction of a millisecond, of which two have passed. -/
theorem nextAllowed?_spec_fraction :
  nextAllowedInWords? ⟨1740823200, 0⟩ 20_000_700_000 ⟨1740823247, 5⟩ = some ⟨1740823240, 0⟩ ∧
    IsNextAllowed ⟨1740823200, 0⟩ 20_000_700_000 ⟨1740823247, 5⟩ ⟨1740823240, 0⟩
  := by
  obtain ⟨next, allowed, inWords, isNext⟩ : ∃ next,
      nextAllowed? ⟨1740823200, 0⟩ 20_000_700_000 ⟨1740823247, 5⟩ = some next ∧ _ ∧
        IsNextAllowed ⟨1740823200, 0⟩ 20_000_700_000 ⟨1740823247, 5⟩ next :=
    nextAllowed?_spec (by decide) (by decide) (by decide) (by decide) (by decide) (by decide)
  have told : nextAllowed? ⟨1740823200, 0⟩ 20_000_700_000 ⟨1740823247, 5⟩
      = some ⟨1740823240, 0⟩ := by
    decide
  obtain rfl := Option.some.inj (told.symm.trans allowed)
  exact ⟨inWords, isNext⟩

end CloudOperator
