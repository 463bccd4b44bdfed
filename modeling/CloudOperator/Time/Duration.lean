import CloudOperator.Text.Blank
import CloudOperator.Time.Timestamp

/-!
# Durations

A duration is a natural number of nanoseconds.  Two text forms are declared:
`Duration.fixed`, seconds with nine decimals, and `Duration.brief`, a number in the
largest unit that leaves something before the point.
-/

namespace CloudOperator

namespace Duration

/-- The duration of a number of seconds. -/
def ofSeconds (seconds : Nat) : Nat :=
  1_000_000_000 * seconds

/-- The whole seconds of a duration. -/
def wholeSeconds (duration : Nat) : Nat :=
  duration / 1_000_000_000

/-- The seconds of a duration with nine decimals. -/
def fixed (duration : Nat) : String :=
  toString (wholeSeconds duration) ++ "." ++ String.ofList (Timestamp.digits 9 duration)

/-- The quotient of a duration by a unit of `10 ^ places` nanoseconds, with the
decimals it needs. -/
def inUnit (duration places : Nat) : String :=
  let whole := toString (duration / Nat.pow 10 places)
  match dropTrailing (· = '0') (Timestamp.digits places duration) with
  | [] => whole
  | decimals => whole ++ "." ++ String.ofList decimals

/-- A duration in seconds, milliseconds, microseconds or nanoseconds, whichever is
the largest unit that it reaches. -/
def brief (duration : Nat) : String :=
  if 1_000_000_000 ≤ duration then inUnit duration 9 ++ "s"
  else if 1_000_000 ≤ duration then inUnit duration 6 ++ "ms"
  else if 1000 ≤ duration then inUnit duration 3 ++ "µs"
  else inUnit duration 0 ++ "ns"

end Duration

end CloudOperator
