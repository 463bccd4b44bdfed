import CloudOperator.Reconcile.Move
import CloudOperator.Table

/-!
# Debouncing

A move that stays in its phase is written at most once in an interval.  The times of
writes are counted in whole intervals from the last write in that phase, or from the
start of the phase where that is later.
-/

namespace CloudOperator

/-- The earliest time from `now` on, or the latest one before, at which a whole
number of intervals has passed since `anchor`, but no sooner than one interval.  It
has no answer if it is not in the calendar. -/
def nextAllowed? (anchor : Instant) (interval : Int) (now : Instant) : Option Instant :=
  let intervalMillis := wholeMillis interval
  let elapsed := now.since anchor
  if intervalMillis ≤ 0 then some now
  else if elapsed < interval then anchor.add? interval
  else
    let count := (wholeMillis elapsed).tdiv intervalMillis
    anchor.add? (count * intervalMillis * nanosPerMilli)

/-- The duration from `now` to a later time, but no more than the interval. -/
def remaining (later now : Instant) (interval : Nat) : Nat :=
  let span := later.since now
  if span < 0 then interval else min span.toNat interval

/-- The last write of the status of every object, with the phase that was written. -/
abbrev WriteHistory :=
  Table String (Phase × Instant)

namespace WriteHistory

/-- The time of the last write for a key, if it was in the given phase. -/
def lastIn? (history : WriteHistory) (key : String) (phase : Phase) : Option Instant :=
  ((Table.find? history key).filter fun write => write.1 = phase).map (·.2)

/-- The history after a write. -/
def record (history : WriteHistory) (key : String) (phase : Phase) (now : Instant) :
    WriteHistory :=
  Table.insert history key (phase, now)

/-- The history without the writes for a key. -/
def forget (history : WriteHistory) (key : String) : WriteHistory :=
  Table.erase history key

end WriteHistory

/-- The key of an object of a kind. -/
def Kind.key (K : Kind) (ns name : String) : String :=
  K.name ++ "/" ++ ns ++ "/" ++ name

namespace Object

variable {K : Kind}

/-- The key of an object. -/
def key (o : Object K) : String :=
  K.key (o.metadata.ns.getD "") o.metadata.displayName

/-- The time from which the writes of a phase are counted, if the phase has a start. -/
def anchor? (o : Object K) (history : WriteHistory) (phase : Phase) : Option Instant :=
  (o.status.bind (·.phaseStartedAt)).map fun start =>
    match history.lastIn? o.key phase with
    | some last => max last start
    | none => start

/-- How long a move has to wait at the time `now`, if it has to.  Only a move that
stays in its phase and asks for another pass can have to.  The outer option is empty
if the time of the next write is not in the calendar. -/
def debounce? (o : Object K) (history : WriteHistory) (interval : Nat) (move : Move)
    (now : Instant) : Option (Option Nat) :=
  if move.requeue ∧ o.phase = some move.phase then
    match o.anchor? history move.phase with
    | none => some none
    | some anchor =>
      (nextAllowed? anchor (spanOfDuration interval) now).map fun allowed =>
        if now < allowed then some (remaining allowed now interval) else none
  else some none

end Object

end CloudOperator
