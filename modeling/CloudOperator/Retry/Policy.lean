import CloudOperator.Reconcile.Failure
import CloudOperator.Retry.Backoff
import CloudOperator.Time.Instant

/-!
# Retry policy

What follows a pass that failed: a failure that only a change of the object can
mend waits for one, a conflict is tried again at once, and all others back off.
-/

namespace CloudOperator

/-- What follows a pass that failed. -/
inductive Retry where
  /-- The object has to change first. -/
  | awaitChange
  /-- Somebody else wrote the object; the next pass reads what they wrote. -/
  | conflict
  /-- The next pass waits for a growing delay. -/
  | backOff (delay : Nat)
deriving DecidableEq, Repr

namespace Retry

/-- The duration after a conflict. -/
def conflictDelay : Nat :=
  Duration.ofSeconds 1

/-- The duration until the next pass, if it does not wait for a change. -/
def delay? : Retry → Option Nat
  | awaitChange => none
  | conflict => some conflictDelay
  | backOff delay => some delay

/-- The name of a reason to retry. -/
def reason : Retry → String
  | awaitChange => "await-change"
  | conflict => "conflict"
  | backOff _ => "error-backoff"

/-- The span to the time of the next attempt that is reported; a delay that is no
span is left out. -/
def reportedSpan (delay : Nat) : Int :=
  if (delay : Int) ≤ longestSpan then delay else 0

/-- What follows a failure of the pass of a key at the time `now`, and the tracker
after it.  There is no answer if the time of the next attempt is not in the
calendar. -/
def ofFailure? (t : BackoffTracker) (key : String) (now : Instant) (f : PassFailure) :
    Option (Retry × BackoffTracker) :=
  if f.isTerminal then some (awaitChange, t)
  else if f.isConflict then some (conflict, t)
  else
    let ((delay, _), t) := t.next key
    (now.add? (reportedSpan delay)).map fun _ => (backOff delay, t)

end Retry

end CloudOperator
