/-!
# Instants

A point of UTC time with nanosecond resolution, and the arithmetic between
instants and spans of time.  A span is an integer number of nanoseconds.  The last
second before a leap second is followed by a second whose `nano` runs from one
billion to two billion, so an instant inside a leap second keeps its own place.

Dates end: `Instant.add?` has no answer when the sum leaves the calendar.
-/

namespace CloudOperator

/-- The seconds in one day. -/
abbrev secondsPerDay : Int := 86400

/-- The nanoseconds in one second. -/
abbrev nanosPerSecond : Int := 1_000_000_000

/-- The nanoseconds in one millisecond. -/
abbrev nanosPerMilli : Int := 1_000_000

/-- The longest span, in nanoseconds: the milliseconds of a signed 64-bit word. -/
abbrev longestSpan : Int := 9223372036854775807 * nanosPerMilli

/-- A number of seconds as a span, if it is no longer than the longest span. -/
def spanOfSeconds? (seconds : Int) : Option Int :=
  let span := seconds * nanosPerSecond
  if -longestSpan ≤ span ∧ span ≤ longestSpan then some span else none

/-- A duration as a span; one beyond the longest span is cut to it. -/
def spanOfDuration (duration : Nat) : Int :=
  min (duration : Int) longestSpan

/-- The whole milliseconds of a span, cut towards zero. -/
def wholeMillis (span : Int) : Int :=
  span.tdiv nanosPerMilli

/-- A point of UTC time. -/
structure Instant where
  /-- The seconds since the beginning of 1970. -/
  second : Int
  /-- The nanoseconds into that second, a billion or more inside a leap second. -/
  nano : Nat
deriving DecidableEq, Repr

namespace Instant

/-- The first second of the year -262143, the first of the calendar. -/
abbrev firstSecond : Int := -8334601228800

/-- The last second of the year 262142, the last of the calendar. -/
abbrev lastSecond : Int := 8210266876799

/-- Whether the date of the instant lies in the calendar. -/
def IsInCalendar (t : Instant) : Prop :=
  firstSecond ≤ t.second ∧ t.second ≤ lastSecond

instance (t : Instant) : Decidable t.IsInCalendar :=
  inferInstanceAs (Decidable (_ ∧ _))

/-- Instants are ordered by second, then by nanosecond. -/
protected def lt (t u : Instant) : Prop :=
  t.second < u.second ∨ (t.second = u.second ∧ t.nano < u.nano)

instance : LT Instant := ⟨Instant.lt⟩

instance : LE Instant := ⟨fun t u => ¬ u < t⟩

instance (t u : Instant) : Decidable (t < u) :=
  inferInstanceAs (Decidable (_ ∨ _))

instance (t u : Instant) : Decidable (t ≤ u) :=
  inferInstanceAs (Decidable (¬ _))

instance : Max Instant := ⟨fun t u => if t ≤ u then u else t⟩

/-- Whether the instant lies inside a leap second. -/
def inLeapSecond (t : Instant) : Prop :=
  1_000_000_000 ≤ t.nano

instance (t : Instant) : Decidable t.inLeapSecond :=
  inferInstanceAs (Decidable (_ ≤ _))

/-- The second of the day. -/
def clock (t : Instant) : Int :=
  t.second % secondsPerDay

/-- The number of the day, counted from the first day of 1970. -/
def day (t : Instant) : Int :=
  t.second / secondsPerDay

/-- The instant at the beginning of the second of `t`; a leap second is a second
of its own. -/
def startOfSecond (t : Instant) : Instant :=
  ⟨t.second, if t.inLeapSecond then 1_000_000_000 else 0⟩

/-- The span from `u` to `t` in nanoseconds.  A leap second that ends between the
two times of day adds a second. -/
def since (t u : Instant) : Int :=
  let leap : Int :=
    if u.clock < t.clock ∧ u.inLeapSecond then 1
    else if t.clock < u.clock ∧ t.inLeapSecond then -1
    else 0
  (t.second - u.second + leap) * nanosPerSecond + ((t.nano : Int) - u.nano)

/-- The instant of a second and of nanoseconds that may exceed it or fall short of
it by up to a second. -/
def carry (second nano : Int) : Instant :=
  ⟨second + nano / nanosPerSecond, (nano % nanosPerSecond).toNat⟩

/-- Whether adding `seconds` and `nanos` to `t` does not pass the end of the leap
second of `t`. -/
def staysInLeapSecond (t : Instant) (seconds nanos : Int) : Prop :=
  t.inLeapSecond ∧ seconds = 0 ∧ (nanos ≤ 0 ∨ (t.nano : Int) + nanos < 2_000_000_000)

instance (t : Instant) (seconds nanos : Int) : Decidable (t.staysInLeapSecond seconds nanos) :=
  inferInstanceAs (Decidable (_ ∧ _))

/-- The instant a span after `t`, its second not yet compared with the calendar.
The seconds and the nanoseconds of a span have its sign.  A span backwards starts
at the end of a leap second and one forwards at its beginning, so that a leap
second takes no time, unless the sum stays in it. -/
def shift (t : Instant) (span : Int) : Instant :=
  let seconds := span.tdiv nanosPerSecond
  let nanos := span.tmod nanosPerSecond
  if ¬ t.inLeapSecond then carry (t.second + seconds) (t.nano + nanos)
  else if t.staysInLeapSecond seconds nanos then ⟨t.second, (t.nano + nanos).toNat⟩
  else
    carry (t.second + seconds + if seconds < 0 then 1 else 0) (t.nano - nanosPerSecond + nanos)

/-- The instant a span after `t`, unless its date lies outside the calendar. -/
def add? (t : Instant) (span : Int) : Option Instant :=
  let u := t.shift span
  if u.IsInCalendar then some u else none

end Instant

end CloudOperator
