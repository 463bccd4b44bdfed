import CloudOperator.Cloud.Report
import CloudOperator.Reconcile.Debounce

/-!
# Decisions

What a pass does with an object.  A decision depends on the object, on the outcome
of the work of its phase, and on the time; nothing is written or sent to reach it.
-/

namespace CloudOperator

/-- What a pass does with an object. -/
inductive Decision where
  /-- Nothing until the object changes. -/
  | rest
  /-- Nothing for a duration. -/
  | wait (duration : Nat)
  /-- A move. -/
  | move (move : Move)
  /-- The object is kept by the operator, and makes its first move. -/
  | enroll
  /-- The work of the phase failed. -/
  | fail (cause : Failure)
  /-- The object is not kept by the operator any more. -/
  | release
deriving DecidableEq, Repr

namespace Decision

/-- The states of a remote resource that is being set up. -/
def pendingStates : List String :=
  ["InCreation", "Provisioning"]

/-- The states of a remote resource that is ready. -/
def readyStates : List String :=
  ["Available", "Active", "NotUsed", "Used"]

/-- The states of a remote resource that could not be set up. -/
def failedStates : List String :=
  ["Failed", "Error"]

/-- The decision about an object whose remote resource was created in a state. -/
def ofCreated (state : Option String) : Decision :=
  if state.any pendingStates.contains then move .provisioning else move .created

/-- The decision about an object whose remote resource is in a state. -/
def ofState : Option String → Decision
  | none => move .provisioning
  | some state =>
    if readyStates.contains state then move .created
    else if failedStates.contains state then move (.provisioningFailed state)
    else move .provisioning

/-- The decision about an object whose remote resource was updated, or was not. -/
def ofUpdate : Except Failure Unit → Decision
  | .ok () => move .updated
  | .error cause => fail cause

/-- The decision about an object whose remote resource was deleted, or was not.  It
is as good as deleted if there is no such resource. -/
def ofDeletion : Except Failure Unit → Decision
  | .ok () => release
  | .error cause => if cause.isNotFound then release else fail cause

end Decision

/-- What the passes over all objects have in common. -/
structure PassSettings where
  /-- The duration between two passes over an object that is on its way. -/
  requeueInterval : Nat
  /-- The duration for which an object may stay in a transitioning phase. -/
  phaseTimeout : Nat
  /-- The realm in which the clients of the tenants log in. -/
  realm : String
deriving DecidableEq, Repr

namespace Object

variable {K : Kind}

/-- The time at which the phase of an object started. -/
def phaseStartedAt (o : Object K) : Option Instant :=
  o.status.bind (·.phaseStartedAt)

/-- Whether the object stayed in a transitioning phase for longer than the timeout. -/
def isOverdue (o : Object K) (timeout : Nat) (now : Instant) : Bool :=
  o.phase.any Phase.isTransitioning
    && o.phaseStartedAt.any fun start => decide (spanOfDuration timeout < now.since start)

/-- Whether the object is to be deleted and is not on its way there. -/
def isToBeDeleted (o : Object K) : Bool :=
  o.isDeletionRequested && o.phase ≠ some .deleting && o.phase ≠ some .failed

/-- The move that comes before the work of the phase, if there is one. -/
def preempting? (o : Object K) (settings : PassSettings) (now : Instant) : Option Move :=
  if o.isOverdue settings.phaseTimeout now then some (.timedOut settings.phaseTimeout)
  else if o.isToBeDeleted then some .toBeDeleted
  else none

/-- The decision about an object that is as it should be, unless its specification
changed. -/
def decideUnchanged (o : Object K) : Decision :=
  if o.generationChanged then .move .updating else .rest

/-- The decision about an object in whose remote resource a drift was found, or was
not. -/
def decideCreated (o : Object K) : Except Failure (Option Drift) → Decision
  | .ok (some drift) => .move (.drifted drift)
  | .ok none => o.decideUnchanged
  | .error cause => .fail cause

/-- The decision about an object that failed and is to be deleted: the deletion is
tried again once an interval has passed.  There is no decision if the end of the
interval is not in the calendar. -/
def decideFailedDeletion? (o : Object K) (interval : Nat) (now : Instant) : Option Decision :=
  match o.phaseStartedAt with
  | none => some (.move .toBeDeleted)
  | some start => (start.add? (spanOfDuration interval)).map fun due =>
    if now < due then .wait (remaining due now interval) else .move .toBeDeleted

/-- The decision about an object that failed.  It stays so until it is to be deleted
or its specification changes. -/
def decideFailed? (o : Object K) (interval : Nat) (now : Instant) : Option Decision :=
  if o.isDeletionRequested then o.decideFailedDeletion? interval now
  else if ¬ o.generationChanged then some .rest
  else if o.resourceID = "" then some (.move .retrying)
  else some (.move .updating)

end Object

end CloudOperator
