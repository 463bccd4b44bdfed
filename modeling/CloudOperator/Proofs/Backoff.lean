import CloudOperator.Proofs.Elapsed
import CloudOperator.Retry.Policy
import CloudOperator.Settings
import Mathlib.Data.Nat.Fib.Basic

/-!
# Delays after failures

The delays of a key are multiples of the least delay by the Fibonacci numbers, cut to the largest
delay (`Backoff.current_after`), and the tracker gives every key the delay of its own failures in a
row (`BackoffTracker.Calls.state_eq`).

What the bounds of the delays have to satisfy follows: the delays are positive, stay below the
bound, do not decrease and lead to times in the calendar just where the least delay is positive, is
not above the bound, and the bound does not lead out of the calendar
(`Settings.isUsable_backoff_iff`).  The delays at most double, so none can skip over the times that
are not in the calendar.  Settings are accepted with all bounds.
-/

namespace CloudOperator

/-! ## The sequence of delays -/

namespace Backoff

/-- The delay in minutes after a number of failures in a row. -/
def minutes (least most : Nat) : Nat → Nat
  | 0 => least
  | k + 1 => min most (least * Nat.fib (k + 2))

/-- The delay in seconds after a number of failures in a row. -/
def secondsAfter (least most k : Nat) : Nat :=
  saturated (60 * minutes least most k)

/-- The sequence after a number of failures in a row. -/
def after (least most : Nat) : Nat → Backoff
  | 0 => .start least most
  | k + 1 => (after least most k).advance

variable {least most : Nat}

theorem minutes_cases (least most k : Nat) :
  minutes least most k = least * Nat.fib (k + 1) ∨
    minutes least most k = min most (least * Nat.fib (k + 1))
  := by
  cases k with
  | zero => exact .inl (Nat.mul_one least).symm
  | succ k => exact .inr rfl

theorem most_after (k : Nat) :
  (after least most k).most = most
  := by
  induction k with
  | zero => rfl
  | succ k ih => exact ih

/-- The delays grow like the Fibonacci numbers, and are cut to the bound. -/
theorem current_after (word : most < UInt64.size) (k : Nat) :
  (after least most k).current = minutes least most k
  := by
  induction k using Nat.twoStepInduction with
  | zero => rfl
  | one =>
    rw [minutes, Nat.fib_two, Nat.mul_one]
    simp only [after, advance, start, saturated, largestWord]
    omega
  | more k ih ih' =>
    have sum : least * Nat.fib (k + 1 + 2) =
        least * Nat.fib (k + 1) + least * Nat.fib (k + 2) := by
      rw [Nat.fib_add_two, Nat.mul_add]
    have previous : (after least most (k + 1)).previous = minutes least most k := ih
    rw [after, advance, previous, ih', most_after, saturated, largestWord]
    dsimp only
    rw [minutes, minutes, sum]
    obtain same | same := minutes_cases least most k
    · rw [same]
      omega
    · rw [same]
      omega

example : (List.range 8).map (fun k => (after 1 10 k).current) = [1, 1, 2, 3, 5, 8, 10, 10]
  := by decide

theorem seconds_after (word : most < UInt64.size) (k : Nat) :
  (after least most k).seconds = secondsAfter least most k
  := by
  rw [seconds, secondsAfter, current_after word]

/-- A delay is at most twice the one before it. -/
theorem minutes_succ_le (least most k : Nat) :
  minutes least most (k + 1) ≤ 2 * minutes least most k
  := by
  have grows : Nat.fib k ≤ Nat.fib (k + 1) := Nat.fib_le_fib_succ
  have doubles : least * Nat.fib (k + 2) ≤ 2 * (least * Nat.fib (k + 1)) := by
    rw [Nat.fib_add_two, Nat.mul_add]
    have := Nat.mul_le_mul_left least grows
    omega
  rw [minutes]
  obtain same | same := minutes_cases least most k
  · omega
  · omega

/-- A positive delay grows until it is the largest one. -/
theorem exists_minutes_eq (positive : 0 < least) (most : Nat) :
  ∃ k, minutes least most k = most
  := by
  refine ⟨most + 5, Nat.min_eq_left ?_⟩
  calc
    most ≤ most + 6 := Nat.le_add_right most 6
    _ ≤ Nat.fib (most + 6) := Nat.le_fib_self (by omega)
    _ ≤ least * Nat.fib (most + 6) := Nat.le_mul_of_pos_left _ positive

/-! The first delay is the least one even where the bound is below it; all others keep to the
bound. -/

theorem secondsAfter_le (ordered : saturated (60 * least) ≤ saturated (60 * most)) (k : Nat) :
  secondsAfter least most k ≤ saturated (60 * most)
  := by
  cases k with
  | zero => exact ordered
  | succ k =>
    rw [secondsAfter, minutes, saturated, saturated]
    omega

theorem secondsAfter_succ_ge (ordered : saturated (60 * least) ≤ saturated (60 * most)) (k : Nat) :
  secondsAfter least most k ≤ secondsAfter least most (k + 1)
  := by
  rw [saturated, saturated] at ordered
  rw [secondsAfter, secondsAfter, saturated, saturated]
  cases k with
  | zero =>
    rw [minutes, minutes, Nat.fib_two]
    omega
  | succ k =>
    have grows : least * Nat.fib (k + 2) ≤ least * Nat.fib (k + 1 + 2) :=
      Nat.mul_le_mul_left least Nat.fib_le_fib_succ
    rw [minutes, minutes]
    omega

/-- No delay is shorter than the least one. -/
theorem le_secondsAfter (ordered : saturated (60 * least) ≤ saturated (60 * most)) (k : Nat) :
  saturated (60 * least) ≤ secondsAfter least most k
  := by
  induction k with
  | zero => apply Nat.le_refl
  | succ k ih => exact Nat.le_trans ih (secondsAfter_succ_ge ordered k)

end Backoff

/-! ## Times of attempts -/

namespace Instant

/-- What a clock reads that does not run past the second `latest`. -/
structure IsReadUntil (latest : Int) (now : Instant) : Prop where
  inCalendar : now.IsInCalendar
  second : now.second ≤ latest
  nano : now.nano < 2_000_000_000

variable {now : Instant}

/-- A sum with whole seconds is later by these seconds. -/
theorem second_shift_ofSeconds (nano : now.nano < 2_000_000_000) (seconds : Nat) :
  (now.shift (Duration.ofSeconds seconds)).second = now.second + seconds
  := by
  have span : (Duration.ofSeconds seconds : Int) = seconds * nanosPerSecond := by
    rw [Duration.ofSeconds, nanosPerSecond]
    omega
  rw [span, shift_seconds now seconds nano]
  split
  · dsimp only
    omega
  · rfl

/-- The time of an attempt that is reported lies in the calendar, unless the delay leads out of
it. -/
theorem add?_reportedSpan_eq_none {latest : Int} (reading : now.IsReadUntil latest)
    (seconds : Nat) :
  now.add? (Retry.reportedSpan (Duration.ofSeconds seconds)) = none ↔
    (Duration.ofSeconds seconds : Int) ≤ longestSpan ∧ lastSecond < now.second + seconds
  := by
  obtain ⟨first, last⟩ := reading.inCalendar
  have later := second_shift_ofSeconds reading.nano seconds
  have same := second_shift_ofSeconds reading.nano 0
  rw [Retry.reportedSpan, add?]
  split
  · simp only [IsInCalendar, later, ite_eq_right_iff, reduceCtorEq, imp_false]
    omega
  · have inside : (now.shift 0).IsInCalendar := by
      rw [Duration.ofSeconds, Nat.mul_zero, Int.natCast_zero] at same
      rw [IsInCalendar, same]
      omega
    simp only [if_pos inside, reduceCtorEq, false_iff]
    omega

end Instant

/-! ## Trackers -/

/-- After the failure a pass is tried again with growing delays. -/
structure PassFailure.BacksOff (f : PassFailure) : Prop where
  notTerminal : f.isTerminal = false
  notConflict : f.isConflict = false

namespace BackoffTracker

open Instant (IsReadUntil firstSecond lastSecond)

/-- Something that changes a tracker. -/
inductive Event where
  /-- A pass of a key failed, and is tried again after a delay. -/
  | delayed (key : String) (delay : Nat)
  /-- The failures of a key were forgotten. -/
  | reset (key : String)

/-- The number of failures of a key in a row; the last event comes first. -/
def failures (key : String) : List Event → Nat
  | [] => 0
  | .delayed key' _ :: history =>
    if key' = key then failures key history + 1 else failures key history
  | .reset key' :: history => if key' = key then 0 else failures key history

/-- The last delay of a key, unless its failures were forgotten since. -/
def lastDelay? (key : String) : List Event → Option Nat
  | [] => none
  | .delayed key' delay :: history => if key' = key then some delay else lastDelay? key history
  | .reset key' :: history => if key' = key then none else lastDelay? key history

/-- Failures of any keys, at times until the second `latest`, and resets, one after the other, with
what happened, the last event first, and with the tracker after it. -/
inductive Calls (latest : Int) (least most : Nat) : List Event → BackoffTracker → Prop
  | started : Calls latest least most [] (.start least most)
  | failed {history : List Event} {t t' : BackoffTracker} {key : String} {now : Instant}
      {f : PassFailure} {delay : Nat} (calls : Calls latest least most history t)
      (reading : now.IsReadUntil latest) (backsOff : f.BacksOff)
      (answers : Retry.ofFailure? t key now f = some (.backOff delay, t')) :
      Calls latest least most (.delayed key delay :: history) t'
  | reset {history : List Event} {t : BackoffTracker} (key : String)
      (calls : Calls latest least most history t) :
      Calls latest least most (.reset key :: history) (t.reset key)

/-- After any calls, every failure is answered with a delay that is positive and not above the
bound, and that is not shorter than the last delay of the key. -/
def IsUsable (latest : Int) (least most : Nat) : Prop :=
  ∀ history t, Calls latest least most history t →
    ∀ key now f, now.IsReadUntil latest → f.BacksOff →
      ∃ delay t', Retry.ofFailure? t key now f = some (.backOff delay, t') ∧
        0 < delay ∧ delay ≤ Duration.ofSeconds (saturated (60 * most)) ∧
        ∀ before, lastDelay? key history = some before → before ≤ delay

variable {latest : Int} {least most : Nat} {history : List Event} {t t' : BackoffTracker}
  {key : String} {now : Instant} {f : PassFailure}

theorem ofFailure?_eq (backsOff : f.BacksOff) :
  Retry.ofFailure? t key now f =
    (now.add? (Retry.reportedSpan (t.next key).1.1)).map fun _ =>
      (.backOff (t.next key).1.1, (t.next key).2)
  := by
  rw [Retry.ofFailure?, backsOff.notTerminal, backsOff.notConflict]
  rfl

/-- A failure that is answered is counted. -/
theorem of_ofFailure? (backsOff : f.BacksOff) {retry : Retry}
    (answers : Retry.ofFailure? t key now f = some (retry, t')) :
  retry = .backOff (t.next key).1.1 ∧ t' = (t.next key).2
  := by
  rw [ofFailure?_eq backsOff] at answers
  obtain ⟨-, -, ⟨⟩⟩ := Option.map_eq_some_iff.mp answers
  exact ⟨rfl, rfl⟩

namespace Calls

/-- A tracker keeps its bounds. -/
theorem bounds_eq (calls : Calls latest least most history t) :
  t.least = least ∧ t.most = most
  := by
  induction calls with
  | started => exact ⟨rfl, rfl⟩
  | failed calls reading backsOff answers ih =>
    obtain ⟨-, rfl⟩ := of_ofFailure? backsOff answers
    exact ih
  | reset key calls ih => exact ih

/-- The tracker holds of every key the sequence after its own failures in a row. -/
theorem state_eq (calls : Calls latest least most history t) (key : String) :
  t.state key = ⟨.after least most (failures key history), failures key history⟩
  := by
  induction calls with
  | started => rfl
  | failed calls reading backsOff answers ih =>
    obtain ⟨-, rfl⟩ := of_ofFailure? backsOff answers
    rw [state_next, failures]
    split
    · obtain rfl := ‹_ = key›
      rw [ih]
      rfl
    · exact ih
  | reset key' calls ih =>
    obtain ⟨rfl, rfl⟩ := calls.bounds_eq
    rw [state_reset, failures]
    split
    · rfl
    · exact ih

theorem next_eq (calls : Calls latest least most history t) (word : most < UInt64.size)
    (key : String) :
  (t.next key).1 =
    (Duration.ofSeconds (Backoff.secondsAfter least most (failures key history)),
      failures key history + 1)
  := by
  rw [next, calls.state_eq key]
  dsimp only [BackoffState.countError]
  rw [Backoff.seconds_after word]

/-- The last delay of a key is that of its failures in a row before the last one. -/
theorem lastDelay?_eq (calls : Calls latest least most history t) (word : most < UInt64.size)
    {key : String} {delay : Nat} (last : lastDelay? key history = some delay) :
  ∃ k, failures key history = k + 1 ∧
    delay = Duration.ofSeconds (Backoff.secondsAfter least most k)
  := by
  induction calls with
  | started => cases last
  | failed calls reading backsOff answers ih =>
    obtain ⟨⟨⟩, rfl⟩ := of_ofFailure? backsOff answers
    rw [lastDelay?] at last
    rw [failures]
    split at last
    · obtain rfl := ‹_ = key›
      cases last
      rw [if_pos rfl, calls.next_eq word]
      exact ⟨_, rfl, rfl⟩
    · rw [if_neg ‹_›]
      exact ih last
  | reset key' calls ih =>
    rw [lastDelay?] at last
    rw [failures]
    split at last
    · cases last
    · rw [if_neg ‹_›]
      exact ih last

/-- A failure is not answered where its delay leads out of the calendar. -/
theorem ofFailure?_eq_none (calls : Calls latest least most history t)
    (word : most < UInt64.size) (reading : now.IsReadUntil latest) (backsOff : f.BacksOff) :
  Retry.ofFailure? t key now f = none ↔
    (Duration.ofSeconds (Backoff.secondsAfter least most (failures key history)) : Int) ≤
        longestSpan ∧
      lastSecond < now.second + Backoff.secondsAfter least most (failures key history)
  := by
  rw [ofFailure?_eq backsOff, Option.map_eq_none_iff, calls.next_eq word,
    Instant.add?_reportedSpan_eq_none reading]

end Calls

/-- Bounds of which the larger one does not lead out of the calendar can be used. -/
theorem isUsable_of_bounds (word : most < UInt64.size) (positive : 0 < least)
    (ordered : saturated (60 * least) ≤ saturated (60 * most))
    (dated : latest + 60 * most ≤ lastSecond ∨
      longestSpan < (Duration.ofSeconds (60 * least) : Int)) :
  IsUsable latest least most
  := by
  intro history t calls key now f reading backsOff
  have shortest := Backoff.le_secondsAfter ordered (failures key history)
  have longest := Backoff.secondsAfter_le ordered (failures key history)
  have answers : Retry.ofFailure? t key now f ≠ none := by
    rw [Ne, calls.ofFailure?_eq_none word reading backsOff, Duration.ofSeconds]
    rintro ⟨reported, leaves⟩
    have before := reading.second
    simp only [Duration.ofSeconds, longestSpan, nanosPerMilli] at dated reported
    simp only [saturated, largestWord, UInt64.size] at shortest longest
    omega
  obtain ⟨⟨retry, t'⟩, answered⟩ := Option.ne_none_iff_exists'.mp answers
  obtain ⟨rfl, rfl⟩ := of_ofFailure? backsOff answered
  refine ⟨_, _, answered, ?_⟩
  rw [calls.next_eq word, Duration.ofSeconds, Duration.ofSeconds]
  refine ⟨?_, Nat.mul_le_mul_left _ longest, ?_⟩
  · simp only [saturated, largestWord, UInt64.size] at shortest
    omega
  · intro before last
    obtain ⟨k, row, rfl⟩ := calls.lastDelay?_eq word last
    rw [row, Duration.ofSeconds]
    exact Nat.mul_le_mul_left _ (Backoff.secondsAfter_succ_ge ordered k)

theorem backsOff_timeout :
  (PassFailure.timeout 0).BacksOff
  := ⟨rfl, rfl⟩

/-- A key can fail any number of times in a row. -/
theorem IsUsable.exists_failures (usable : IsUsable latest least most)
    (reading : now.IsReadUntil latest) (key : String) (k : Nat) :
  ∃ history t, Calls latest least most history t ∧ failures key history = k
  := by
  induction k with
  | zero => exact ⟨[], _, .started, rfl⟩
  | succ k ih =>
    obtain ⟨history, t, calls, row⟩ := ih
    obtain ⟨delay, t', answers, -⟩ := usable history t calls key now _ reading backsOff_timeout
    refine ⟨_, t', .failed calls reading backsOff_timeout answers, ?_⟩
    rw [failures, if_pos rfl, row]

/-- Where bounds can be used and the least delay is reported, all delays lead to times in the
calendar.  They at most double, so none is too long to be reported. -/
theorem IsUsable.latest_add_le (usable : IsUsable latest least most) (word : most < UInt64.size)
    (reading : Instant.IsReadUntil latest ⟨latest, 0⟩)
    (reported : (Duration.ofSeconds (60 * least) : Int) ≤ longestSpan) (k : Nat) :
  latest + 60 * Backoff.minutes least most k ≤ lastSecond
  := by
  have dated (k : Nat) : (Duration.ofSeconds (Backoff.secondsAfter least most k) : Int) ≤
      longestSpan → latest + Backoff.secondsAfter least most k ≤ lastSecond := by
    intro reported
    obtain ⟨history, t, calls, rfl⟩ := usable.exists_failures reading "" k
    obtain ⟨delay, t', answers, -⟩ := usable history t calls "" _ _ reading backsOff_timeout
    apply Int.not_lt.mp
    intro leaves
    rw [(calls.ofFailure?_eq_none word reading backsOff_timeout).mpr ⟨reported, leaves⟩] at answers
    cases answers
  obtain ⟨first, -⟩ := reading.inCalendar
  simp only [Duration.ofSeconds, longestSpan, nanosPerMilli, Backoff.secondsAfter, saturated,
    largestWord, UInt64.size, firstSecond, lastSecond] at first dated reported ⊢
  induction k with
  | zero =>
    have dated := dated 0
    rw [Backoff.minutes] at dated ⊢
    omega
  | succ k ih =>
    have dated := dated (k + 1)
    have doubles := Backoff.minutes_succ_le least most k
    omega

/-- Bounds that can be used are such that the larger one does not lead out of the calendar. -/
theorem IsUsable.bounds (usable : IsUsable latest least most) (word : most < UInt64.size)
    (first : firstSecond ≤ latest) (last : latest ≤ lastSecond) :
  0 < least ∧ saturated (60 * least) ≤ saturated (60 * most) ∧
    (latest + 60 * most ≤ lastSecond ∨ longestSpan < (Duration.ofSeconds (60 * least) : Int))
  := by
  have reading : Instant.IsReadUntil latest ⟨latest, 0⟩ :=
    ⟨⟨first, last⟩, Int.le_refl latest, Nat.zero_lt_succ _⟩
  obtain ⟨delay, t', answers, positive, bounded, -⟩ :=
    usable [] _ .started "" _ _ reading backsOff_timeout
  obtain ⟨⟨⟩, -⟩ := of_ofFailure? backsOff_timeout answers
  have calls : Calls latest least most [] (.start least most) := .started
  rw [calls.next_eq word] at positive bounded
  have waits : 0 < least := by
    apply Nat.pos_of_ne_zero
    rintro rfl
    cases positive
  refine ⟨waits, Nat.le_of_mul_le_mul_left bounded (by decide), ?_⟩
  by_cases reported : (Duration.ofSeconds (60 * least) : Int) ≤ longestSpan
  · obtain ⟨k, largest⟩ := Backoff.exists_minutes_eq waits most
    have dated := usable.latest_add_le word reading reported k
    rw [largest] at dated
    exact .inl dated
  · exact .inr (Int.not_le.mp reported)

end BackoffTracker

namespace Settings

open Instant (firstSecond lastSecond)

/-- Settings are accepted with any bounds of the delays.  With a clock that runs until the second
`latest`, every failure is answered with a delay that is positive and not above the larger bound,
and the delays of a key do not decrease, just where

* the least delay is positive,
* it is not above the bound, both as seconds that fit into a word, and
* the bound does not lead out of the calendar, or the least delay is so long that the time of the
  next attempt is not reported. -/
theorem isUsable_backoff_iff (s : Settings) (word : s.errorBackoffMaxMinutes < UInt64.size)
    {latest : Int} (first : firstSecond ≤ latest) (last : latest ≤ lastSecond) :
  (∀ least most,
    { s with errorBackoffMinMinutes := least, errorBackoffMaxMinutes := most }.failure? =
      s.failure?) ∧
  (BackoffTracker.IsUsable latest s.errorBackoffMinMinutes s.errorBackoffMaxMinutes ↔
    0 < s.errorBackoffMinMinutes ∧
    saturated (60 * s.errorBackoffMinMinutes) ≤ saturated (60 * s.errorBackoffMaxMinutes) ∧
    (latest + 60 * s.errorBackoffMaxMinutes ≤ lastSecond ∨
      longestSpan < (Duration.ofSeconds (60 * s.errorBackoffMinMinutes) : Int)))
  := by
  refine ⟨fun least most => rfl, fun usable => ?_, ?_⟩
  · exact usable.bounds word first last
  · rintro ⟨positive, ordered, dated⟩
    exact BackoffTracker.isUsable_of_bounds word positive ordered dated

/-- Settings with all that is needed, and with bounds of the delays. -/
def bounded (least most : String) : Settings :=
  ofEnvironment fun name =>
    [("API_GATEWAY", "https://api"), ("KEYCLOAK_URL", "https://kc"), ("KEYCLOAK_REALM", "tenants"),
      ("VAULT_ADDRESS", "https://v"), ("VAULT_ROLE_ID", "role"), ("VAULT_ROLE_SECRET", "s3cr3t"),
      ("ERROR_BACKOFF_MIN_MINUTES", least), ("ERROR_BACKOFF_MAX_MINUTES", most)].lookup name

/-- The bounds `1` and `10` can be used until the end of the year 9999, the bounds `0` and `10`
cannot. -/
theorem isUsable_backoff_bounded :
  (bounded "1" "10").failure? = none ∧
  BackoffTracker.IsUsable 253_402_300_799 (bounded "1" "10").errorBackoffMinMinutes
    (bounded "1" "10").errorBackoffMaxMinutes ∧
  (bounded "0" "10").failure? = none ∧
  ¬ BackoffTracker.IsUsable 253_402_300_799 (bounded "0" "10").errorBackoffMinMinutes
    (bounded "0" "10").errorBackoffMaxMinutes
  := by
  refine ⟨by decide +kernel, ?_, by decide +kernel, ?_⟩
  · apply (isUsable_backoff_iff (bounded "1" "10") (by decide +kernel) (by decide)
      (by decide)).2.mpr
    decide +kernel
  · intro usable
    obtain ⟨positive, -⟩ := (isUsable_backoff_iff (bounded "0" "10") (by decide +kernel)
      (by decide) (by decide)).2.mp usable
    revert positive
    decide +kernel

/-- The delays that follow failures of a key at the beginning of 1970, one after the other. -/
def delays? (s : Settings) : Nat → Option (List Nat × BackoffTracker)
  | 0 => some ([], .start s.errorBackoffMinMinutes s.errorBackoffMaxMinutes)
  | k + 1 => do
    let (delays, t) ← delays? s k
    let (retry, t) ← Retry.ofFailure? t "ArubaVpc/team-a/main" ⟨0, 0⟩ (.timeout 0)
    return (delays ++ retry.delay?.toList, t)

/-- Accepted settings with which a failed pass is tried again without a delay, with which the first
delay is above the bound and the second one is shorter, and with which there is no answer. -/
theorem accepts_unusable_bounds :
  ((bounded "0" "10").failure? = none ∧
    ((bounded "0" "10").delays? 2).map (·.1) = some [0, 0]) ∧
  ((bounded "5" "2").failure? = none ∧
    Duration.ofSeconds (60 * (bounded "5" "2").errorBackoffMaxMinutes) = Duration.ofSeconds 120 ∧
    ((bounded "5" "2").delays? 2).map (·.1) =
      some [Duration.ofSeconds 300, Duration.ofSeconds 120]) ∧
  ((bounded "10000000000000" "10000000000000").failure? = none ∧
    (bounded "10000000000000" "10000000000000").delays? 1 = none)
  := by
  decide +kernel

end Settings

end CloudOperator
