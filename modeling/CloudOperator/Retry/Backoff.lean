import CloudOperator.Table
import CloudOperator.Time.Duration

/-!
# Backoff

Delays that grow like the Fibonacci numbers, between two bounds.  A `Backoff` hands
them out one after the other, and a `BackoffTracker` keeps one for every object
whose last pass failed.  Minutes and seconds are words of 64 bits; a sum or a
product that does not fit is the largest word.  The count of failures in a row is a
word of 32 bits, for which a natural number stands: counts below 2^32 are meant.
-/

namespace CloudOperator

/-- The largest word of 64 bits. -/
abbrev largestWord : Nat := UInt64.size - 1

/-- A number cut to the largest word. -/
def saturated (n : Nat) : Nat :=
  min n largestWord

/-- A sequence of growing delays in minutes. -/
structure Backoff where
  /-- The first delay. -/
  least : Nat
  previous : Nat
  current : Nat
  /-- The bound of all delays but the first. -/
  most : Nat
deriving DecidableEq, Repr

namespace Backoff

/-- The sequence between two bounds, at its beginning. -/
def start (least most : Nat) : Backoff :=
  { least, previous := 0, current := least, most }

/-- The delay in seconds that is handed out next. -/
def seconds (b : Backoff) : Nat :=
  saturated (60 * b.current)

/-- The sequence after its next delay was handed out. -/
def advance (b : Backoff) : Backoff :=
  { b with
    previous := b.current
    current := min (saturated (b.previous + b.current)) b.most }

/-- The sequence at its beginning again. -/
def reset (b : Backoff) : Backoff :=
  { b with previous := 0, current := b.least }

end Backoff

/-- The failures of one object in a row. -/
structure BackoffState where
  backoff : Backoff
  errors : Nat
deriving DecidableEq, Repr

namespace BackoffState

/-- No failure yet. -/
def start (least most : Nat) : BackoffState :=
  ⟨.start least most, 0⟩

/-- One more failure is counted. -/
def countError (s : BackoffState) : BackoffState :=
  { s with errors := s.errors + 1 }

/-- The next delay was handed out. -/
def advance (s : BackoffState) : BackoffState :=
  { s with backoff := s.backoff.advance }

/-- The failures are forgotten. -/
def reset (s : BackoffState) : BackoffState :=
  ⟨s.backoff.reset, 0⟩

end BackoffState

/-- The failures in a row of every object that has any, by its key. -/
structure BackoffTracker where
  least : Nat
  most : Nat
  states : Table String BackoffState
deriving DecidableEq, Repr

namespace BackoffTracker

/-- A tracker of no failures. -/
def start (least most : Nat) : BackoffTracker :=
  ⟨least, most, []⟩

/-- The failures in a row of a key. -/
def state (t : BackoffTracker) (key : String) : BackoffState :=
  (t.states.find? key).getD (.start t.least t.most)

/-- The delay after one more failure of a key, the number of its failures in a row,
and the tracker after it. -/
def next (t : BackoffTracker) (key : String) : (Nat × Nat) × BackoffTracker :=
  let state := (t.state key).countError
  ((Duration.ofSeconds state.backoff.seconds, state.errors),
    { t with states := t.states.insert key state.advance })

/-- The failures of a key are forgotten. -/
def reset (t : BackoffTracker) (key : String) : BackoffTracker :=
  { t with states := t.states.erase key }

theorem state_next (t : BackoffTracker) (key key' : String) :
  (t.next key).2.state key' =
    if key = key' then (t.state key).countError.advance else t.state key'
  := by
  by_cases h : key = key' <;> simp [next, state, h]

theorem state_reset (t : BackoffTracker) (key key' : String) :
  (t.reset key).state key' = if key = key' then .start t.least t.most else t.state key'
  := by
  by_cases h : key = key' <;> simp [reset, state, h]

/-- The number of keys that have failures. -/
def size (t : BackoffTracker) : Nat :=
  t.states.length

end BackoffTracker

end CloudOperator
