import CloudOperator.Access.Login
import CloudOperator.Simulation.World

/-!
# Actions of the simulated operator

What the operator does in a simulated world: whole passes with what follows them,
logins, and single parts of a pass over an object in hand.
-/

namespace CloudOperator

namespace Simulation

/-! ## Passes -/

/-- What follows a pass. -/
structure PassReport where
  result : Except PassFailure Directive
  /-- The duration until the next pass, if it does not wait for a change. -/
  action : Option Nat
  /-- The number of objects whose last pass failed. -/
  tracked : Nat

/-- What follows the failure of a pass of a key. -/
def retry (key : String) (f : PassFailure) : Simulation Retry := do
  let w ← get
  let (retry, backoff) ← (Retry.ofFailure? w.backoff key w.wallClock f : Option _)
  change fun w => { w with backoff }
  count (.requeues retry.reason)
  return retry

/-- What follows the failure of a pass over an object. -/
def retryObject (o : Object K) (f : PassFailure) : Simulation Retry := do
  count (.reconciliationErrors K.name)
  retry o.key f

/-- The number of objects whose last pass failed. -/
def tracked : Simulation Nat :=
  return (← get).backoff.size

/-- A pass over an object, and what follows it. -/
def reconcile (K : Kind) (ns name : String) : Simulation PassReport := do
  let w ← get
  let (result, memory) ← run (w.memory.pass w.settings w.now K ns name)
  change fun w => { w with memory }
  let key := K.key ns name
  match result with
  | .ok directive =>
    change fun w => { w with backoff := w.backoff.reset key }
    return ⟨result, some (directive.delay w.resync), ← tracked⟩
  | .error f =>
    let retry ← match ← object? K ns name with
      | some o => retryObject o f
      | none => retry key f
    return ⟨result, retry.delay?, ← tracked⟩

/-- What follows the failure of a pass over an object that is given: the duration until
the next pass, and the number of objects whose last pass failed. -/
def policy (o : Object K) (f : PassFailure) : Simulation (Option Nat × Nat) :=
  return ((← retryObject o f).delay?, ← tracked)

/-! ## Logins -/

/-- Tokens for several tenants are asked for at a time. -/
def logIn (requests : List (String × LoginSource)) :
    Simulation (List (Except AccessFailure String)) := do
  let w ← get
  let (results, tokens) ←
    run (Login.together w.memory.tokens w.settings.realm w.now requests)
  change fun w => { w with memory := { w.memory with tokens } }
  return results

/-- The cached token of a tenant, if it can be used. -/
def activeToken (tenant : String) : Simulation (Option String) := do
  let w ← get
  run (w.memory.tokens.hit? tenant w.now)

/-! ## Parts of a pass -/

/-- An exchange with the remote resource of an object. -/
inductive RemoteCall where
  | create
  | state
  | update (specChanged : Bool)
  | delete
  | drift

/-- What an exchange with a remote resource leads to. -/
inductive RemoteResult where
  | created (report : ResourceReport)
  | state (state : Option String)
  | done
  | drift (drift : Option Drift)

/-- An exchange with the remote resource of an object, and the object after it. -/
def remote (o : Object K) (actor : Actor) (call : RemoteCall) :
    Pass (Except Failure RemoteResult × Object K) :=
  match call with
  | .create => do
    match ← o.create actor with
    | .ok (report, o) => return (.ok (.created report), o)
    | .error cause => return (.error cause, o)
  | .state => return ((← o.remoteState actor).map .state, o)
  | .update specChanged => do
    let (result, o) ← o.update actor specChanged
    return (result.map fun _ => .done, o)
  | .delete => return ((← o.delete actor).map fun _ => .done, o)
  | .drift => return ((← o.drift? actor).map .drift, o)

/-- A decision that is made about an object in hand, or a part of a pass that leads to
one. -/
inductive PartCall where
  /-- A move. -/
  | move (move : Move)
  /-- The work of a phase fails. -/
  | fail (cause : Failure)
  /-- The first move. -/
  | enroll
  /-- The remote resource was created, or was not. -/
  | created (result : Except Failure (String × Option String))
  /-- The remote resource was looked at, or was not. -/
  | polled (result : Except Failure (Option String))
  /-- The remote resource was updated, or was not. -/
  | updated (result : Except Failure Unit)
  /-- The remote resource was deleted, or was not. -/
  | deleted (result : Except Failure Unit)
  /-- The object is looked at for a change of its specification. -/
  | checkForUpdates
  /-- The object failed before. -/
  | failed
  /-- The object is overdue, if it is. -/
  | timeout
  /-- The object is to be deleted, if it is. -/
  | toDelete
  /-- The work of a phase, whatever phase the object is in. -/
  | work (phase : Option Phase)

/-- The decision that a call makes about an object at the time `now`, if it makes one,
and the object after it. -/
def decide (o : Object K) (actor : Actor) (settings : PassSettings) (now : Instant) :
    PartCall → Pass (Option Decision × Object K)
  | .move move => return (some (.move move), o)
  | .fail cause => return (some (.fail cause), o)
  | .enroll => return (some .enroll, o)
  | .created (.ok (id, state)) => return (some (.ofCreated state), o.recordID id)
  | .created (.error cause) => return (some (.fail cause), o)
  | .polled (.ok state) => return (some (.ofState state), o)
  | .polled (.error cause) => return (some (.fail cause), o)
  | .updated result => return (some (.ofUpdate result), o)
  | .deleted result => return (some (.ofDeletion result), o)
  | .checkForUpdates => return (some o.decideUnchanged, o)
  | .failed => return (some (← Program.ofOption (o.decideFailed? settings.requeueInterval now)), o)
  | .timeout =>
    return (if o.isOverdue settings.phaseTimeout now then
      some (.move (.timedOut settings.phaseTimeout)) else none, o)
  | .toDelete => return (if o.isToBeDeleted then some (.move .toBeDeleted) else none, o)
  | .work phase => do
    let (decision, o) ← Work.ofPhase phase o actor settings now
    return (some decision, o)

/-- A call on an object in hand: its result, if it makes a decision, and the object
after it. -/
def call (o : Object K) (actor : Actor) (call : PartCall) :
    Simulation (Option (Except PassFailure Directive) × Object K) := do
  let w ← get
  let (decision, o) ← run (decide o actor w.settings w.now call)
  match decision with
  | none => return (none, o)
  | some decision =>
    let (result, t) ← run (Task.carryOut ⟨o, w.memory.writes⟩ w.settings w.now decision)
    change fun w => { w with memory := { w.memory with writes := t.history } }
    return (some result, t.object)

end Simulation

end CloudOperator
