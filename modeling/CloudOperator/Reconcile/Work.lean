import CloudOperator.Reconcile.Decision

/-!
# The work of the phases

What is done for an object in each phase: at most an exchange with its remote
resource, and the decision that follows from the outcome.
-/

namespace CloudOperator

/-- The work of a phase: it leads to a decision, and to the object as the work leaves
it. -/
abbrev Work (K : Kind) :=
  Pass (Decision × Object K)

namespace Work

variable {K : Kind}

/-- The remote resource is created.  Its identifier is recorded besides its links. -/
def create (o : Object K) (actor : Actor) : Work K := do
  match ← o.create actor with
  | .error cause => return (.fail cause, o)
  | .ok (report, o) => return (.ofCreated report.state?, o.recordID report.id)

/-- The remote resource is looked at. -/
def poll (o : Object K) (actor : Actor) : Work K := do
  match ← o.remoteState actor with
  | .error cause => return (.fail cause, o)
  | .ok state => return (.ofState state, o)

/-- The remote resource is compared with the object. -/
def compare (o : Object K) (actor : Actor) : Work K :=
  return (o.decideCreated (← o.drift? actor), o)

/-- The remote resource is updated. -/
def update (o : Object K) (actor : Actor) : Work K := do
  let (result, o) ← o.update actor o.generationChanged
  return (.ofUpdate result, o)

/-- The remote resource is deleted, if there is one. -/
def delete (o : Object K) (actor : Actor) : Work K :=
  if o.resourceID = "" then return (.release, o)
  else return (.ofDeletion (← o.delete actor), o)

/-- The work of a phase, which an object without one is yet to enter. -/
def ofPhase (phase : Option Phase) (o : Object K) (actor : Actor) (settings : PassSettings)
    (now : Instant) : Work K :=
  match phase with
  | none => return (.enroll, o)
  | some .creating => create o actor
  | some .provisioning => poll o actor
  | some .created => compare o actor
  | some .updating => update o actor
  | some .deleting => delete o actor
  | some .failed =>
    return (← Program.ofOption (o.decideFailed? settings.requeueInterval now), o)

end Work

end CloudOperator
